import MmlScan.Proofs.Operation
import Mathlib.Data.List.Basic

/-!
# What the gate does

The texts ahead of a scanner are the rest of its buffer and what is read after each expansion.
Passing over blanks settles them: blanks go, and with them every text that has nothing else.
Expanding enters macros one after the other, each time the one with the longest key at the cursor.

The gate does both and then passes over blanks once more, without expanding what that uncovers.
So a key can be at the cursor when the gate opens, but only behind a macro whose replacement is
empty or begins with a blank.
-/

namespace MmlScan

namespace Text

/-- The text has no content in front: it is empty or begins with a blank. -/
def BlankLed (text : Text) : Prop :=
  ∀ c ∈ text.head?, isBlank c = true

theorem blankLed_nil : BlankLed [] := by
  simp [BlankLed]

theorem blankLed_cons {c : Char} {rest : Text} : BlankLed (c :: rest) ↔ isBlank c = true := by
  simp [BlankLed]

instance (text : Text) : Decidable text.BlankLed :=
  match text with
  | [] => isTrue blankLed_nil
  | _ :: _ => decidable_of_iff _ blankLed_cons.symm

theorem trimStart_eq_self {text : Text} (content : ¬ text.BlankLed) : trimStart text = text := by
  cases text with
  | nil => exact absurd blankLed_nil content
  | cons c rest =>
      rw [blankLed_cons] at content
      exact List.dropWhile_cons_of_neg content

/-- Without its leading blanks a text is empty or has content in front. -/
theorem trimStart_content (text : Text) : trimStart text = [] ∨ ¬ (trimStart text).BlankLed := by
  induction text with
  | nil => exact .inl rfl
  | cons c rest ih =>
      by_cases blank : isBlank c = true
      · rw [trimStart, List.dropWhile_cons_of_pos blank]
        exact ih
      · rw [trimStart, List.dropWhile_cons_of_neg blank, blankLed_cons]
        exact .inr blank

end Text

namespace Scanner

/-! ## Passing over blanks -/

/-- The texts that are still to be read, the nearest first. -/
def ahead (scanner : Scanner) : List Text :=
  scanner.rest :: scanner.expansions.frames.map (·.pending)

/-- Drops the blanks in front, and every text but the last that has nothing else. -/
def settle : List Text → List Text
  | [] => []
  | [text] => [Text.trimStart text]
  | text :: next :: texts =>
      if Text.trimStart text = [] then settle (next :: texts)
      else Text.trimStart text :: next :: texts

theorem settle_of_content {text : Text} {texts : List Text} (content : ¬ text.BlankLed) :
    settle (text :: texts) = text :: texts := by
  have text_nonempty : text ≠ [] := by
    rintro rfl
    exact content Text.blankLed_nil
  cases texts with
  | nil => rw [settle, Text.trimStart_eq_self content]
  | cons next texts => rw [settle, Text.trimStart_eq_self content, if_neg text_nonempty]

theorem settle_shape (text : Text) (texts : List Text) :
    ∃ front others, settle (text :: texts) = front :: others ∧
      (¬ front.BlankLed ∨ front = [] ∧ others = []) := by
  induction texts generalizing text with
  | nil =>
      refine ⟨Text.trimStart text, [], rfl, ?_⟩
      rcases Text.trimStart_content text with empty | content
      · exact .inr ⟨empty, rfl⟩
      · exact .inl content
  | cons next texts ih =>
      rw [settle]
      split
      · exact ih next
      · next remains =>
          refine ⟨Text.trimStart text, next :: texts, rfl, .inl ?_⟩
          exact (Text.trimStart_content text).resolve_left remains

theorem settle_settle (texts : List Text) : settle (settle texts) = settle texts := by
  cases texts with
  | nil => rfl
  | cons text texts =>
      obtain ⟨front, others, shape, content | ⟨rfl, rfl⟩⟩ := settle_shape text texts
      · rw [shape, settle_of_content content]
      · rw [shape]
        rfl

theorem skipFrom_of_leave {scanner outer : Scanner} (skipped : Bool)
    (exhausted : scanner.skipBlanks.2.isExhausted = true)
    (left : scanner.skipBlanks.2.exit? = some outer) :
    skipFrom skipped scanner = skipFrom (skipped || scanner.skipBlanks.1) outer := by
  rw [skipFrom.eq_def skipped scanner]
  dsimp only
  rw [if_pos exhausted]
  split
  · next other found =>
      cases left.symm.trans found
      rfl
  · next stays => cases left.symm.trans stays

theorem skipFrom_of_stay {scanner : Scanner} (skipped : Bool)
    (stays : scanner.skipBlanks.2.isExhausted = true → scanner.skipBlanks.2.exit? = none) :
    skipFrom skipped scanner = (skipped || scanner.skipBlanks.1, scanner.skipBlanks.2) := by
  rw [skipFrom.eq_def]
  dsimp only
  split
  · next exhausted =>
      split
      · next found => cases (stays exhausted).symm.trans found
      · rfl
  · rfl

theorem rest_skipBlanks (scanner : Scanner) :
    scanner.skipBlanks.2.rest = Text.trimStart scanner.rest :=
  View.rest_trimWhile scanner.view Text.isBlank

theorem ahead_skipBlanks (scanner : Scanner) :
    scanner.skipBlanks.2.ahead =
      Text.trimStart scanner.rest :: scanner.expansions.frames.map (·.pending) := by
  rw [ahead, rest_skipBlanks]
  rfl

theorem ahead_exit {scanner outer : Scanner} (left : scanner.exit? = some outer) :
    scanner.ahead = scanner.rest :: outer.ahead := by
  obtain ⟨frame, frames, shape, frames_eq, view_eq, _⟩ := exit_eq_some left
  rw [ahead, ahead, shape, frames_eq, rest, rest, view_eq, View.rest_reposition]
  rfl

/-- Passing over blanks exhausts the buffer exactly if nothing else is left in it. -/
theorem isExhausted_skipBlanks_iff {scanner : Scanner} :
    scanner.skipBlanks.2.isExhausted = true ↔ Text.trimStart scanner.rest = [] := by
  rw [← rest_skipBlanks]
  exact List.isEmpty_iff

/-- Passing over blanks touches no frame, so what is left is what was around the buffer before. -/
theorem ahead_of_exit_skipBlanks {scanner outer : Scanner}
    (left : scanner.skipBlanks.2.exit? = some outer) :
    scanner.ahead = scanner.rest :: outer.ahead := by
  have tail_eq : scanner.expansions.frames.map (·.pending) = outer.ahead :=
    (List.cons.inj (ahead_exit left)).2
  rw [ahead, tail_eq]

/-- Where blanks are passed over in the source, its rest is all that is ahead. -/
theorem ahead_of_exit_skipBlanks_eq_none {scanner : Scanner}
    (outside : scanner.skipBlanks.2.exit? = none) : scanner.ahead = [scanner.rest] := by
  have no_frames : scanner.expansions.frames = [] :=
    List.length_eq_zero_iff.mp (exit_eq_none_iff.mp outside)
  rw [ahead, no_frames]
  rfl

/-- Passing over blanks settles the texts ahead. -/
theorem ahead_skipFrom (skipped : Bool) (scanner : Scanner) :
    (skipFrom skipped scanner).2.ahead = settle scanner.ahead := by
  fun_induction skipFrom skipped scanner with
  | case1 skipped scanner run consumed after exhausted outer left ih =>
      have blank : Text.trimStart scanner.rest = [] := isExhausted_skipBlanks_iff.mp exhausted
      rw [ih, ahead_of_exit_skipBlanks left, ahead, settle, if_pos blank]
  | case2 skipped scanner run consumed after exhausted outside =>
      have tail_eq := (List.cons.inj (ahead_of_exit_skipBlanks_eq_none outside)).2
      rw [show after.ahead = _ from ahead_skipBlanks scanner, ahead, tail_eq]
      rfl
  | case3 skipped scanner run consumed after remains =>
      have visible : Text.trimStart scanner.rest ≠ [] :=
        fun empty => remains (isExhausted_skipBlanks_iff.mpr empty)
      rw [show after.ahead = _ from ahead_skipBlanks scanner, ahead]
      cases scanner.expansions.frames with
      | nil => rfl
      | cons frame frames => rw [List.map_cons, settle, if_neg visible]

theorem ahead_skip (scanner : Scanner) : scanner.skip.2.ahead = settle scanner.ahead :=
  ahead_skipFrom false scanner

/-! ## Expanding -/

section Equations

variable {scanner inner : Scanner} {definition : MacroDefinition} (entered : Nat)

theorem expandFrom_of_notFound
    (notFound : scanner.macros.longestMatch? scanner.rest = none) :
    scanner.expandFrom entered = (.ok entered, scanner) := by
  rw [expandFrom.eq_def]
  split
  · rfl
  · next found => cases notFound.symm.trans found

theorem expandFrom_of_refused
    (found : scanner.macros.longestMatch? scanner.rest = some definition)
    (refused : scanner.enter? definition.key definition.replacement = none) :
    scanner.expandFrom entered =
      (.error ⟨definition.key, scanner.expansions.keys⟩, scanner) := by
  rw [expandFrom.eq_def]
  split
  · next notFound => cases found.symm.trans notFound
  · next other same =>
      cases found.symm.trans same
      split
      · rfl
      · next begun => cases refused.symm.trans begun

theorem expandFrom_of_begun
    (found : scanner.macros.longestMatch? scanner.rest = some definition)
    (begun : scanner.enter? definition.key definition.replacement = some inner) :
    scanner.expandFrom entered = inner.expandFrom (entered + 1) := by
  rw [expandFrom.eq_def]
  split
  · next notFound => cases found.symm.trans notFound
  · next other same =>
      cases found.symm.trans same
      split
      · next refused => cases begun.symm.trans refused
      · next other same =>
          cases begun.symm.trans same
          rfl

end Equations

/-- The scanner enters macros one after the other, each time the one found at the cursor. -/
inductive Enters : List MacroDefinition → Scanner → Scanner → Prop
  | nil (scanner : Scanner) : Enters [] scanner scanner
  | cons {definition : MacroDefinition} {definitions : List MacroDefinition}
      {scanner inner after : Scanner}
      (found : scanner.macros.longestMatch? scanner.rest = some definition)
      (begun : scanner.enter? definition.key definition.replacement = some inner)
      (later : Enters definitions inner after) : Enters (definition :: definitions) scanner after

theorem enters_of_expandFrom {entered : Nat} {scanner : Scanner} :
    (∀ {count after}, expandFrom entered scanner = (.ok count, after) →
      ∃ definitions, Enters definitions scanner after ∧ count = entered + definitions.length ∧
        after.macros.longestMatch? after.rest = none) ∧
    (∀ {cycle after}, expandFrom entered scanner = (.error cycle, after) →
      ∃ definitions definition, Enters definitions scanner after ∧
        after.macros.longestMatch? after.rest = some definition ∧
        after.enter? definition.key definition.replacement = none ∧
        cycle = ⟨definition.key, after.expansions.keys⟩) := by
  fun_induction expandFrom entered scanner with
  | case1 entered scanner notFound =>
      refine ⟨fun success => ?_, fun failure => ?_⟩
      · cases success
        exact ⟨[], .nil scanner, rfl, notFound⟩
      · cases failure
  | case2 entered scanner definition found refused =>
      refine ⟨fun success => ?_, fun failure => ?_⟩
      · cases success
      · cases failure
        exact ⟨[], definition, .nil scanner, found, refused, rfl⟩
  | case3 entered scanner definition found inner begun ih =>
      refine ⟨fun success => ?_, fun failure => ?_⟩
      · obtain ⟨definitions, later, count_eq, notFound⟩ := ih.1 success
        refine ⟨definition :: definitions, .cons found begun later, ?_, notFound⟩
        rw [count_eq, List.length_cons]
        omega
      · obtain ⟨definitions, last, later, stuck⟩ := ih.2 failure
        exact ⟨definition :: definitions, last, .cons found begun later, stuck⟩

theorem enters_expand (scanner : Scanner) :
    ∃ definitions, Enters definitions scanner scanner.expand.2 := by
  rcases expansion : scanner.expand with ⟨answer, after⟩
  cases answer with
  | ok count =>
      obtain ⟨definitions, enters, _⟩ := enters_of_expandFrom.1 expansion
      exact ⟨definitions, enters⟩
  | error cycle =>
      obtain ⟨definitions, _, enters, _⟩ := enters_of_expandFrom.2 expansion
      exact ⟨definitions, enters⟩

theorem Enters.expandFrom {definitions : List MacroDefinition} {scanner after : Scanner}
    (enters : Enters definitions scanner after)
    (notFound : after.macros.longestMatch? after.rest = none) (entered : Nat) :
    scanner.expandFrom entered = (.ok (entered + definitions.length), after) := by
  induction enters generalizing entered with
  | nil scanner => exact expandFrom_of_notFound entered notFound
  | cons found begun later ih =>
      rw [expandFrom_of_begun entered found begun, ih notFound, List.length_cons]
      congr 2
      omega

theorem Enters.macros_eq {definitions : List MacroDefinition} {scanner after : Scanner}
    (enters : Enters definitions scanner after) : after.macros = scanner.macros := by
  induction enters with
  | nil => rfl
  | cons found begun later ih =>
      obtain ⟨_, _, macros_eq, _⟩ := enter_eq_some begun
      rw [ih, macros_eq]

theorem rest_of_ofText {scanner : Scanner} {text : Text} (view_eq : scanner.view = .ofText text) :
    scanner.rest = text := by
  rw [rest, view_eq]
  rfl

/-- After the last macro entered the cursor is at the front of its replacement. -/
theorem Enters.last {definitions : List MacroDefinition} {last : MacroDefinition}
    {scanner after : Scanner} (enters : Enters (definitions ++ [last]) scanner after) :
    last ∈ scanner.macros.entries ∧ after.view = .ofText last.replacement := by
  induction definitions generalizing scanner with
  | nil =>
      cases enters with
      | cons found begun later =>
          cases later
          obtain ⟨_, _, _, _, view_eq, _⟩ := enter_eq_some begun
          exact ⟨MacroTable.mem_of_longestMatch found, view_eq⟩
  | cons definition definitions ih =>
      cases enters with
      | cons found begun later =>
          obtain ⟨_, _, macros_eq, _⟩ := enter_eq_some begun
          rw [← macros_eq]
          exact ih later

/-! ## The gate -/

theorem macros_skipFrom (skipped : Bool) (scanner : Scanner) :
    (skipFrom skipped scanner).2.macros = scanner.macros := by
  fun_induction skipFrom skipped scanner with
  | case1 skipped scanner run consumed after exhausted outer left ih =>
      obtain ⟨_, _, _, _, _, _, macros_eq, _⟩ := exit_eq_some left
      rw [ih, macros_eq]
      rfl
  | case2 => rfl
  | case3 => rfl

theorem reachToken_eq_ok {scanner reached : Scanner} {available : Bool}
    (opened : scanner.reachToken = (.ok available, reached)) :
    ∃ definitions expanded, Enters definitions scanner.skip.2 expanded ∧
      expanded.macros.longestMatch? expanded.rest = none ∧
      reached = expanded.skip.2 ∧ available = !reached.isExhausted := by
  rw [reachToken] at opened
  split at opened
  · cases opened
  · next count expanded expansion =>
      obtain ⟨definitions, enters, _, notFound⟩ := enters_of_expandFrom.1 expansion
      cases opened
      exact ⟨definitions, expanded, enters, notFound, rfl, rfl⟩

theorem reachToken_eq_error {scanner stuck : Scanner} {diagnostic : Diagnostic}
    (stopped : scanner.reachToken = (.error diagnostic, stuck)) :
    ∃ definitions definition, Enters definitions scanner.skip.2 stuck ∧
      stuck.macros.longestMatch? stuck.rest = some definition ∧
      stuck.enter? definition.key definition.replacement = none ∧
      diagnostic = stuck.cycleReport ⟨definition.key, stuck.expansions.keys⟩ := by
  rw [reachToken] at stopped
  split at stopped
  · next cycle after expansion =>
      cases stopped
      obtain ⟨definitions, definition, enters, found, refused, rfl⟩ :=
        enters_of_expandFrom.2 expansion
      exact ⟨definitions, definition, enters, found, refused, rfl⟩
  · cases stopped

theorem rest_eq_headD_ahead (scanner : Scanner) : scanner.rest = scanner.ahead.headD [] := rfl

/-- The second skip of the gate moves nothing if the replacement entered last has content in front,
or if no macro has been entered. -/
theorem rest_skip_of_enters {definitions : List MacroDefinition} {scanner expanded : Scanner}
    (enters : Enters definitions scanner.skip.2 expanded)
    (content : ∀ last ∈ definitions.getLast?, ¬ last.replacement.BlankLed) :
    expanded.skip.2.rest = expanded.rest := by
  rw [rest_eq_headD_ahead, rest_eq_headD_ahead, ahead_skip]
  rcases List.eq_nil_or_concat' definitions with rfl | ⟨entered, last, rfl⟩
  · cases enters
    rw [ahead_skip, settle_settle]
  · have rest_eq : expanded.rest = last.replacement := rest_of_ofText enters.last.2
    rw [ahead, settle_of_content]
    rw [rest_eq]
    exact content last (by simp)

/-- When the gate opens, a key stands at the cursor exactly if the macro entered last has a
replacement without content in front, and a key begins the text that the second skip uncovers. -/
theorem key_at_open_gate_iff {scanner reached : Scanner}
    (opened : scanner.reachToken = (.ok true, reached)) :
    ((∃ key ∈ reached.macros.keys, key <+: reached.rest) ↔
      ∃ entered last expanded, Enters (entered ++ [last]) scanner.skip.2 expanded ∧
        last.replacement.BlankLed ∧
        (∀ key ∈ expanded.macros.keys, ¬ key <+: expanded.rest) ∧
        ∃ key ∈ expanded.macros.keys, key <+: (settle expanded.ahead).headD []) ∧
    ((∀ definition ∈ scanner.macros.entries, ¬ definition.replacement.BlankLed) →
      ∀ key ∈ reached.macros.keys, ¬ key <+: reached.rest) := by
  obtain ⟨definitions, expanded, enters, notFound, rfl, _⟩ := reachToken_eq_ok opened
  have macros_eq : expanded.skip.2.macros = expanded.macros := macros_skipFrom false expanded
  have refused := MacroTable.longestMatch_eq_none_iff.mp notFound
  have slip_needs_blank {key : Text} (defined : key ∈ expanded.macros.keys)
      (begins : key <+: expanded.skip.2.rest) :
      ∃ entered last, definitions = entered ++ [last] ∧ last.replacement.BlankLed := by
    have settled : ¬ ∀ last ∈ definitions.getLast?, ¬ last.replacement.BlankLed := by
      intro content
      rw [rest_skip_of_enters enters content] at begins
      exact refused key defined begins
    rcases List.eq_nil_or_concat' definitions with rfl | ⟨entered, last, rfl⟩
    · exact absurd (by simp) settled
    · exact ⟨entered, last, rfl, by simpa using settled⟩
  rw [macros_eq]
  constructor
  · constructor
    · rintro ⟨key, defined, begins⟩
      obtain ⟨entered, last, rfl, blank⟩ := slip_needs_blank defined begins
      rw [rest_eq_headD_ahead, ahead_skip] at begins
      exact ⟨entered, last, expanded, enters, blank, refused, key, defined, begins⟩
    · rintro ⟨entered, last, other, other_enters, blank, other_refused, key, defined, begins⟩
      have other_notFound := MacroTable.longestMatch_eq_none_iff.mpr other_refused
      have same := (enters.expandFrom notFound 0).symm.trans
        (other_enters.expandFrom other_notFound 0)
      obtain ⟨_, rfl⟩ := Prod.mk.inj same
      rw [← ahead_skip, ← rest_eq_headD_ahead] at begins
      exact ⟨key, defined, begins⟩
  · intro content key defined begins
    obtain ⟨entered, last, rfl, blank⟩ := slip_needs_blank defined begins
    have member := enters.last.1
    rw [show scanner.skip.2.macros = scanner.macros from macros_skipFrom false scanner] at member
    exact content last member blank

/-- A key with an empty replacement, twice in a row. -/
def emptyMacroTwice : Scanner :=
  (ofText ['E', 'E']).define ['E'] []

theorem reachToken_emptyMacroTwice :
    emptyMacroTwice.reachToken = (.ok true, emptyMacroTwice.reachToken.2) := by
  have opened : emptyMacroTwice.reachToken.1 = .ok true := by decide +kernel
  exact Prod.ext opened rfl

theorem key_at_emptyMacroTwice :
    ['E'] ∈ emptyMacroTwice.reachToken.2.macros.keys ∧
      ['E'] <+: emptyMacroTwice.reachToken.2.rest := by
  have keys_eq : emptyMacroTwice.reachToken.2.macros.keys = [['E']] := by decide +kernel
  have rest_eq : emptyMacroTwice.reachToken.2.rest = ['E'] := by decide +kernel
  rw [keys_eq, rest_eq]
  exact ⟨List.mem_singleton_self _, List.prefix_rfl⟩

theorem key_at_open_gate_emptyMacroTwice :
    emptyMacroTwice.reachToken = (.ok true, emptyMacroTwice.reachToken.2) ∧
      ∃ entered last expanded,
        Enters (entered ++ [last]) emptyMacroTwice.skip.2 expanded ∧
        last.replacement.BlankLed ∧
        (∀ key ∈ expanded.macros.keys, ¬ key <+: expanded.rest) ∧
        ∃ key ∈ expanded.macros.keys, key <+: (settle expanded.ahead).headD [] :=
  ⟨reachToken_emptyMacroTwice,
    (key_at_open_gate_iff reachToken_emptyMacroTwice).1.mp ⟨['E'], key_at_emptyMacroTwice⟩⟩

/-- A reachable scanner may stand in front of a key when its gate opens. -/
theorem open_gate_may_show_key :
    ¬ ∀ scanner reached : Scanner, scanner.Reachable → scanner.reachToken = (.ok true, reached) →
      ∀ key ∈ reached.macros.keys, ¬ key <+: reached.rest := by
  intro never
  have reachable : emptyMacroTwice.Reachable :=
    .step (.define ['E'] []) (.fresh ['E', 'E'] .empty)
  obtain ⟨defined, begins⟩ := key_at_emptyMacroTwice
  exact never _ _ reachable reachToken_emptyMacroTwice ['E'] defined begins

/-! ## Changes that the gate sees through -/

/-- A change of scanners that makes no difference to what the gate does: the text behind the cursor
and the macros stay, the same keys are being expanded, and every step of the gate leads to the same
scanner before and after it. -/
structure Transparent (change : Scanner → Scanner) : Prop where
  rest_eq : ∀ scanner, (change scanner).rest = scanner.rest
  macros_eq : ∀ scanner, (change scanner).macros = scanner.macros
  keys_eq : ∀ scanner, (change scanner).expansions.keys = scanner.expansions.keys
  consume_eq : ∀ scanner count, (change scanner).withView ((change scanner).view.consume count) =
    change (scanner.withView (scanner.view.consume count))
  enter_eq : ∀ scanner key replacement, (change scanner).enter? key replacement =
    (scanner.enter? key replacement).map change
  exit_eq : ∀ scanner, (change scanner).exit? = scanner.exit?.map change

namespace Transparent

variable {change : Scanner → Scanner}

theorem skipBlanks (transparent : Transparent change) (scanner : Scanner) :
    (change scanner).skipBlanks = (scanner.skipBlanks.1, change scanner.skipBlanks.2) := by
  have rest_eq : (change scanner).view.rest = scanner.view.rest := transparent.rest_eq scanner
  rw [Scanner.skipBlanks, View.trimWhile, rest_eq]
  exact congrArg (Prod.mk _) (transparent.consume_eq scanner _)

theorem skipFrom (transparent : Transparent change) (skipped : Bool) (scanner : Scanner) :
    skipFrom skipped (change scanner) =
      ((skipFrom skipped scanner).1, change (skipFrom skipped scanner).2) := by
  have exit_eq (scanner : Scanner) : (change scanner).skipBlanks.2.exit? =
      scanner.skipBlanks.2.exit?.map change := by
    rw [transparent.skipBlanks]
    exact transparent.exit_eq scanner.skipBlanks.2
  have exhausted_eq (scanner : Scanner) : (change scanner).skipBlanks.2.isExhausted =
      scanner.skipBlanks.2.isExhausted := by
    rw [transparent.skipBlanks]
    exact congrArg List.isEmpty (transparent.rest_eq scanner.skipBlanks.2)
  fun_induction Scanner.skipFrom skipped scanner with
  | case1 skipped scanner run consumed after exhausted outer left ih =>
      have left : scanner.skipBlanks.2.exit? = some outer := left
      rw [← ih, skipFrom_of_leave skipped ((exhausted_eq scanner).trans exhausted)
        (by rw [exit_eq, left]; rfl), transparent.skipBlanks]
  | case2 skipped scanner run consumed after exhausted outside =>
      have outside : scanner.skipBlanks.2.exit? = none := outside
      rw [skipFrom_of_stay skipped fun _ => by rw [exit_eq, outside]; rfl, transparent.skipBlanks]
  | case3 skipped scanner run consumed after remains =>
      rw [skipFrom_of_stay skipped fun exhausted =>
        absurd ((exhausted_eq scanner).symm.trans exhausted) remains, transparent.skipBlanks]

theorem skip (transparent : Transparent change) (scanner : Scanner) :
    (change scanner).skip = (scanner.skip.1, change scanner.skip.2) :=
  transparent.skipFrom false scanner

theorem expandFrom (transparent : Transparent change) (entered : Nat) (scanner : Scanner) :
    expandFrom entered (change scanner) =
      ((expandFrom entered scanner).1, change (expandFrom entered scanner).2) := by
  have found_eq (scanner : Scanner) : (change scanner).macros.longestMatch? (change scanner).rest =
      scanner.macros.longestMatch? scanner.rest := by
    rw [transparent.macros_eq, transparent.rest_eq]
  fun_induction Scanner.expandFrom entered scanner with
  | case1 entered scanner notFound =>
      exact expandFrom_of_notFound entered ((found_eq scanner).trans notFound)
  | case2 entered scanner definition found refused =>
      have refused_too := transparent.enter_eq scanner definition.key definition.replacement
      rw [refused] at refused_too
      rw [expandFrom_of_refused entered ((found_eq scanner).trans found) refused_too,
        transparent.keys_eq]
  | case3 entered scanner definition found inner begun ih =>
      have begun_too := transparent.enter_eq scanner definition.key definition.replacement
      rw [begun] at begun_too
      rw [← ih]
      exact expandFrom_of_begun entered ((found_eq scanner).trans found) begun_too

theorem expand (transparent : Transparent change) (scanner : Scanner) :
    (change scanner).expand = (scanner.expand.1, change scanner.expand.2) :=
  transparent.expandFrom 0 scanner

/-- The gate opens, or stays closed for the same cycle. -/
theorem reachToken (transparent : Transparent change) (scanner : Scanner) :
    (∃ available reached, scanner.reachToken = (.ok available, reached) ∧
      (change scanner).reachToken = (.ok available, change reached)) ∨
    ∃ cycle stuck, scanner.reachToken = (.error (stuck.cycleReport cycle), stuck) ∧
      (change scanner).reachToken = (.error ((change stuck).cycleReport cycle), change stuck) := by
  rw [Scanner.reachToken, Scanner.reachToken, transparent.skip, transparent.expand]
  rcases scanner.skip.2.expand with ⟨answer, expanded⟩
  cases answer with
  | error cycle => exact .inr ⟨cycle, expanded, rfl, rfl⟩
  | ok count =>
      have exhausted_eq : (change expanded.skip.2).isExhausted = expanded.skip.2.isExhausted :=
        congrArg List.isEmpty (transparent.rest_eq expanded.skip.2)
      refine .inl ⟨!expanded.skip.2.isExhausted, expanded.skip.2, rfl, ?_⟩
      dsimp only
      rw [transparent.skip, exhausted_eq]

end Transparent

end Scanner
end MmlScan
