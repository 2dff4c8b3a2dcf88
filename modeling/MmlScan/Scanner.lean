import MmlScan.Expansion
import MmlScan.MacroTable
import MmlScan.Pattern.Cache
import MmlScan.View

/-!
# Scanners

A scanner reads one source text for the parser of a music macro language.  It looks at one buffer
at a time: the source, or the replacement of the macro that is being expanded innermost.  Entering
a macro puts its replacement in place of the buffer; leaving it goes back to the text around the
key, just behind the key.

Operations are functions from scanners to scanners.  One that can fail answers its result beside
the scanner it leaves, because the state after a failure matters too.
-/

namespace MmlScan

/-- A scanner of one source text. -/
structure Scanner where
  /-- The source, without the byte-order mark. -/
  source : Text
  view : View
  macros : MacroTable
  /-- The macros that are being expanded. -/
  expansions : Expansions
  patterns : PatternCache
  deriving DecidableEq

namespace Scanner

/-- The text without one byte-order mark at its start. -/
def withoutByteOrderMark : Text → Text
  | '\ufeff' :: rest => rest
  | text => text

/-- A scanner at the start of a text, with the patterns of a cache. -/
def withPatterns (text : Text) (patterns : PatternCache) : Scanner :=
  let source := withoutByteOrderMark text
  ⟨source, .ofText source, .empty, .empty, patterns⟩

/-- A scanner at the start of a text. -/
def ofText (text : Text) : Scanner :=
  withPatterns text .empty

/-! ## Position -/

/-- The buffer that is being read. -/
def buffer (scanner : Scanner) : Text :=
  scanner.view.buffer

/-- The text behind the cursor. -/
def rest (scanner : Scanner) : Text :=
  scanner.view.rest

/-- The byte offset of the cursor in the buffer. -/
def offset (scanner : Scanner) : Nat :=
  scanner.view.offset

/-- The line of the cursor in the buffer. -/
def line (scanner : Scanner) : Nat :=
  scanner.view.line

/-- The character behind the cursor. -/
def peek? (scanner : Scanner) : Option Char :=
  scanner.view.peek?

/-- Nothing remains of the buffer. -/
def isExhausted (scanner : Scanner) : Bool :=
  scanner.view.isExhausted

/-- Number of macros that are being expanded. -/
def depth (scanner : Scanner) : Nat :=
  scanner.expansions.depth

/-- The scanner with another view. -/
def withView (scanner : Scanner) (view : View) : Scanner :=
  { scanner with view := view }

/-- Moves the cursor in the buffer; the position it had is forgotten. -/
def reposition (scanner : Scanner) (offset : Nat) : Scanner :=
  scanner.withView (scanner.view.reposition offset)

/-- Moves the cursor in the buffer and remembers the position it had. -/
def seek (scanner : Scanner) (offset : Nat) : Scanner :=
  scanner.withView (scanner.view.seek offset)

/-- Returns to the remembered position. -/
def undo (scanner : Scanner) : Scanner :=
  scanner.withView scanner.view.undo

/-! ## Consuming text -/

/-- Takes the match of a written pattern at the cursor. -/
def trim (scanner : Scanner) (pattern : Text) (ignoreCase : Bool) :
    Except Diagnostic (Option Text) × Scanner :=
  match scanner.patterns.compile pattern ignoreCase with
  | .error diagnostic => (.error diagnostic, scanner)
  | .ok (compiled, patterns) =>
      let (taken, view) := scanner.view.trim compiled.pattern
      (.ok taken, { scanner with view := view, patterns := patterns })

theorem trim_eq_ok {scanner after : Scanner} {pattern : Text} {ignoreCase : Bool}
    {taken : Option Text} (success : scanner.trim pattern ignoreCase = (.ok taken, after)) :
    ∃ compiled patterns, scanner.patterns.compile pattern ignoreCase = .ok (compiled, patterns) ∧
      scanner.view.trim compiled.pattern = (taken, after.view) ∧
      after = { scanner with view := after.view, patterns := patterns } := by
  rw [trim] at success
  split at success
  · cases success
  · next compiled patterns compilation =>
      cases success
      exact ⟨compiled, patterns, compilation, rfl, rfl⟩

theorem trim_eq_error {scanner after : Scanner} {pattern : Text} {ignoreCase : Bool}
    {diagnostic : Diagnostic}
    (failure : scanner.trim pattern ignoreCase = (.error diagnostic, after)) : after = scanner := by
  rw [trim] at failure
  split at failure
  · cases failure
    rfl
  · cases failure

theorem trim_of_parse {pattern : Text} {ignoreCase : Bool} {compiled : Pattern} (scanner : Scanner)
    (parsed : Pattern.parse? ignoreCase pattern = some compiled) :
    ∃ patterns, scanner.trim pattern ignoreCase = (.ok (scanner.view.trim compiled).1,
      { scanner with view := (scanner.view.trim compiled).2, patterns := patterns }) := by
  obtain ⟨entry, extended, compilation, rfl⟩ := scanner.patterns.compile_of_parse parsed
  exact ⟨extended, by rw [trim, compilation]⟩

/-- Takes everything through the first match of a written pattern and answers what is in front of
it. -/
def trimUntil (scanner : Scanner) (pattern : Text) (ignoreCase : Bool) :
    Except Diagnostic (Option Text) × Scanner :=
  match scanner.patterns.compile pattern ignoreCase with
  | .error diagnostic => (.error diagnostic, scanner)
  | .ok (compiled, patterns) =>
      let (taken, view) := scanner.view.trimUntil compiled.pattern
      (.ok taken, { scanner with view := view, patterns := patterns })

theorem trimUntil_eq_ok {scanner after : Scanner} {pattern : Text} {ignoreCase : Bool}
    {taken : Option Text} (success : scanner.trimUntil pattern ignoreCase = (.ok taken, after)) :
    ∃ compiled patterns, scanner.patterns.compile pattern ignoreCase = .ok (compiled, patterns) ∧
      scanner.view.trimUntil compiled.pattern = (taken, after.view) ∧
      after = { scanner with view := after.view, patterns := patterns } := by
  rw [trimUntil] at success
  split at success
  · cases success
  · next compiled patterns compilation =>
      cases success
      exact ⟨compiled, patterns, compilation, rfl, rfl⟩

theorem trimUntil_of_parse {pattern : Text} {ignoreCase : Bool} {compiled : Pattern}
    (scanner : Scanner) (parsed : Pattern.parse? ignoreCase pattern = some compiled) :
    ∃ patterns, scanner.trimUntil pattern ignoreCase = (.ok (scanner.view.trimUntil compiled).1,
      { scanner with view := (scanner.view.trimUntil compiled).2, patterns := patterns }) := by
  obtain ⟨entry, extended, compilation, rfl⟩ := scanner.patterns.compile_of_parse parsed
  exact ⟨extended, by rw [trimUntil, compilation]⟩

/-- Takes the character at the cursor if it is the expected one. -/
def trimChar (scanner : Scanner) (expected : Char) : Bool × Scanner :=
  let (taken, view) := scanner.view.trimChar expected
  (taken, scanner.withView view)

/-! ## Macros -/

/-- Defines a macro. -/
def define (scanner : Scanner) (key replacement : Text) : Scanner :=
  { scanner with macros := scanner.macros.define key replacement }

/-- Defines macros one after the other. -/
def defineAll (scanner : Scanner) (definitions : List (Text × Text)) : Scanner :=
  definitions.foldl (fun scanner definition => scanner.define definition.1 definition.2) scanner

/-- Begins to expand a key at the cursor, unless it is being expanded already.  Reading goes on
behind the key afterwards. -/
def enter? (scanner : Scanner) (key replacement : Text) : Option Scanner :=
  let frame : Expansion := ⟨key, scanner.view, scanner.offset + Text.size key⟩
  (scanner.expansions.push? frame).map fun expansions =>
    { scanner with view := .ofText replacement, expansions := expansions }

/-- Leaves the innermost expansion, if there is one. -/
def exit? (scanner : Scanner) : Option Scanner :=
  scanner.expansions.pop?.map fun (frame, expansions) =>
    { scanner with
        view := frame.enclosing.reposition frame.resume, expansions := expansions }

theorem enter_eq_some {scanner inner : Scanner} {key replacement : Text}
    (entered : scanner.enter? key replacement = some inner) :
    key ∉ scanner.expansions.frames.map (·.key) ∧
      inner.source = scanner.source ∧ inner.macros = scanner.macros ∧
      inner.patterns = scanner.patterns ∧ inner.view = .ofText replacement ∧
      inner.expansions.frames =
        ⟨key, scanner.view, scanner.offset + Text.size key⟩ :: scanner.expansions.frames := by
  obtain ⟨expansions, pushed, rfl⟩ := Option.map_eq_some_iff.mp entered
  rw [Expansions.push?] at pushed
  split at pushed
  · cases pushed
  · next inactive =>
      cases pushed
      exact ⟨fun active => inactive (Expansions.isActive_iff.mpr active), rfl, rfl, rfl, rfl, rfl⟩

theorem exit_eq_some {scanner outer : Scanner} (left : scanner.exit? = some outer) :
    ∃ frame frames,
      scanner.expansions.frames = frame :: frames ∧ outer.expansions.frames = frames ∧
      outer.view = frame.enclosing.reposition frame.resume ∧ outer.source = scanner.source ∧
      outer.macros = scanner.macros ∧ outer.patterns = scanner.patterns := by
  obtain ⟨⟨frame, expansions⟩, popped, rfl⟩ := Option.map_eq_some_iff.mp left
  unfold Expansions.pop? at popped
  split at popped
  · cases popped
  · next frame frames distinct shape =>
      cases popped
      exact ⟨frame, frames, by rw [shape], rfl, rfl, rfl, rfl, rfl⟩

theorem exit_eq_none_iff {scanner : Scanner} : scanner.exit? = none ↔ scanner.depth = 0 := by
  rw [exit?, Option.map_eq_none_iff, depth, Expansions.depth, List.length_eq_zero_iff]
  unfold Expansions.pop?
  split <;> simp_all

/-- Leaves all expansions at once and goes to an offset of the source. -/
def resetToSource (scanner : Scanner) (offset : Nat) : Scanner :=
  { scanner with
      view := (View.ofText scanner.source).reposition offset, expansions := .empty }

/-- Leaves all expansions and goes to the end of the source. -/
def drain (scanner : Scanner) : Scanner :=
  scanner.resetToSource (Text.size scanner.source)

/-! ## Failures -/

/-- The buffer under the name it is shown with. -/
def namedBuffer (scanner : Scanner) : NamedText :=
  let name := match scanner.expansions.innermost? with
    | some key => "<macro \"" ++ String.ofList key ++ "\">"
    | none => "source"
  ⟨name, scanner.buffer⟩

/-- A report of malformed text in the buffer, on the line of the cursor. -/
def malformed (scanner : Scanner) (message : String) (start stop : Nat) : Diagnostic :=
  .located .malformed message scanner.namedBuffer ⟨start, stop⟩ scanner.line none

/-- A report of a macro at the cursor that would expand into itself. -/
def cycleReport (scanner : Scanner) (cycle : MacroCycle) : Diagnostic :=
  .located .cycle ("macro \"" ++ String.ofList cycle.key ++ "\" expands into itself")
    scanner.namedBuffer ⟨scanner.offset, scanner.offset + Text.size cycle.key⟩ scanner.line
    (some ("expansion chain: " ++ cycle.text))

end Scanner

end MmlScan
