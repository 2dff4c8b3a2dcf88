import MmlScan.Diagnostic
import MmlScan.Pattern.Match
import MmlScan.Pattern.Parse

/-!
# Pattern caches

Every reading of a written pattern gives an object of its own, told from all others by its serial
number.  A cache keeps the objects that were read through it, one for each pair of written form and
case flag, in the order of first use.  Nothing is ever removed or replaced.
-/

namespace MmlScan

/-- A pattern together with what it was read from. -/
structure CompiledPattern where
  /-- The written form. -/
  text : Text
  ignoreCase : Bool
  pattern : Pattern
  /-- The pattern is the one that is written. -/
  parsed : Pattern.parse? ignoreCase text = some pattern
  deriving DecidableEq, Repr

/-- The report on a text that is not a written pattern. -/
def Diagnostic.invalidPattern (text : Text) : Diagnostic :=
  (plain .badPattern ("cannot compile pattern `" ++ String.ofList text ++ "`")).withCause
    "error parsing pattern 0"

/-- Reads a written pattern. -/
def CompiledPattern.ofText (text : Text) (ignoreCase : Bool) :
    Except Diagnostic CompiledPattern :=
  match parsed : Pattern.parse? ignoreCase text with
  | some pattern => .ok ⟨text, ignoreCase, pattern, parsed⟩
  | none => .error (.invalidPattern text)

/-- Length in bytes of the match at the front of a text. -/
def CompiledPattern.matchSize? (compiled : CompiledPattern) (text : Text) : Option Nat :=
  (compiled.pattern.matchFront? text).map fun length => Text.size (text.take length)

/-- Range of the first match in a text, as byte offsets. -/
def CompiledPattern.findSpan? (compiled : CompiledPattern) (text : Text) : Option Span :=
  (compiled.pattern.find? text).map fun (start, stop) =>
    ⟨Text.size (text.take start), Text.size (text.take stop)⟩

/-- What a pattern was read from. -/
def CompiledPattern.key (compiled : CompiledPattern) : Text × Bool :=
  (compiled.text, compiled.ignoreCase)

theorem CompiledPattern.key_of_ofText {compiled : CompiledPattern} {text : Text} {ignoreCase : Bool}
    (read : ofText text ignoreCase = .ok compiled) : compiled.key = (text, ignoreCase) := by
  rw [ofText] at read
  split at read <;> cases read
  rfl

/-- What is written leaves no choice of the pattern. -/
theorem CompiledPattern.ofText_key (compiled : CompiledPattern) :
    ofText compiled.key.1 compiled.key.2 = .ok compiled := by
  obtain ⟨text, ignoreCase, pattern, parsed⟩ := compiled
  rw [ofText, key]
  split
  · next other again =>
      obtain rfl : other = pattern := Option.some_inj.mp (again.symm.trans parsed)
      rfl
  · next absent => cases absent.symm.trans parsed

theorem CompiledPattern.map_pattern_ofText (text : Text) (ignoreCase : Bool) :
    (ofText text ignoreCase).map (·.pattern) =
      match Pattern.parse? ignoreCase text with
      | some pattern => .ok pattern
      | none => .error (.invalidPattern text) := by
  rw [ofText]
  split
  · next pattern parsed =>
      change Except.ok pattern = _
      rw [parsed]
  · next malformed =>
      rw [malformed]
      rfl

/-! ## Objects -/

/-- A pattern as an object, which may be in use in several places. -/
structure SharedPattern where
  /-- Number of readings before the one that this object is the result of. -/
  serial : Nat
  compiled : CompiledPattern
  deriving DecidableEq, Repr

namespace SharedPattern

/-- Both are the same object. -/
def sameAs (left right : SharedPattern) : Bool :=
  left.serial = right.serial

/-- Reads a written pattern, as a new object.  `readings` counts the readings before, and the answer
counts this one too. -/
def read (readings : Nat) (text : Text) (ignoreCase : Bool) :
    Except Diagnostic (SharedPattern × Nat) :=
  (CompiledPattern.ofText text ignoreCase).map fun compiled =>
    (⟨readings, compiled⟩, readings + 1)

end SharedPattern

/-! ## Caches -/

/-- The patterns read so far. -/
structure PatternCache where
  /-- The patterns in the order of first use. -/
  entries : List SharedPattern
  deriving DecidableEq, Repr

namespace PatternCache

/-- A cache of which nothing is in use. -/
def empty : PatternCache :=
  ⟨[]⟩

/-- Number of patterns kept. -/
def size (cache : PatternCache) : Nat :=
  cache.entries.length

/-- The entry for a written form and a case flag. -/
def get? (cache : PatternCache) (text : Text) (ignoreCase : Bool) : Option SharedPattern :=
  cache.entries.find? fun entry =>
    entry.compiled.ignoreCase = ignoreCase && entry.compiled.text = text

/-- The object for a written form and a case flag: the one that is kept, else one that is read now
and kept from now on.  A text that is not a written pattern leaves no entry.  `readings` counts the
readings before, and the answer those after. -/
def request (cache : PatternCache) (readings : Nat) (text : Text) (ignoreCase : Bool) :
    Except Diagnostic (SharedPattern × PatternCache × Nat) :=
  match cache.get? text ignoreCase with
  | some entry => .ok (entry, cache, readings)
  | none =>
      match SharedPattern.read readings text ignoreCase with
      | .ok (entry, readings) => .ok (entry, ⟨cache.entries ++ [entry]⟩, readings)
      | .error diagnostic => .error diagnostic

/-- The pattern for a written form and a case flag, where nothing is read but through this cache. -/
def compile (cache : PatternCache) (text : Text) (ignoreCase : Bool) :
    Except Diagnostic (CompiledPattern × PatternCache) :=
  (cache.request cache.size text ignoreCase).map fun (object, extended, _) =>
    (object.compiled, extended)

theorem key_of_get? {cache : PatternCache} {text : Text} {ignoreCase : Bool}
    {object : SharedPattern} (found : cache.get? text ignoreCase = some object) :
    object.compiled.key = (text, ignoreCase) := by
  have same := List.find?_some found
  simp only [Bool.and_eq_true, decide_eq_true_eq] at same
  rw [CompiledPattern.key, same.1, same.2]

/-- Whatever a cache holds, what it answers is what is read afresh. -/
theorem map_request (cache : PatternCache) (readings : Nat) (text : Text) (ignoreCase : Bool) :
    (cache.request readings text ignoreCase).map (·.1.compiled) =
      CompiledPattern.ofText text ignoreCase := by
  rw [request]
  split
  · next entry found =>
      have fresh := entry.compiled.ofText_key
      rw [key_of_get? found] at fresh
      exact fresh.symm
  · rw [SharedPattern.read]
    cases CompiledPattern.ofText text ignoreCase <;> rfl

/-- Whatever a cache holds, a written form has one pattern or one report. -/
theorem map_pattern_compile (cache : PatternCache) (text : Text) (ignoreCase : Bool) :
    (cache.compile text ignoreCase).map (·.1.pattern) =
      match Pattern.parse? ignoreCase text with
      | some pattern => .ok pattern
      | none => .error (.invalidPattern text) := by
  rw [← CompiledPattern.map_pattern_ofText, ← cache.map_request cache.size, compile]
  cases cache.request cache.size text ignoreCase <;> rfl

/-- Whatever was kept before, the pattern is the one that is written. -/
theorem parse?_of_compile {cache extended : PatternCache} {text : Text} {ignoreCase : Bool}
    {compiled : CompiledPattern}
    (success : cache.compile text ignoreCase = .ok (compiled, extended)) :
    Pattern.parse? ignoreCase text = some compiled.pattern := by
  have same := cache.map_pattern_compile text ignoreCase
  rw [success] at same
  split at same
  · next parsed => rw [parsed, ← Except.ok.inj same]
  · cases same

/-- What is a written pattern is never refused. -/
theorem compile_of_parse {text : Text} {ignoreCase : Bool} {pattern : Pattern}
    (cache : PatternCache) (parsed : Pattern.parse? ignoreCase text = some pattern) :
    ∃ compiled extended, cache.compile text ignoreCase = .ok (compiled, extended) ∧
      compiled.pattern = pattern := by
  have same := cache.map_pattern_compile text ignoreCase
  rw [parsed] at same
  cases compilation : cache.compile text ignoreCase with
  | error diagnostic =>
      rw [compilation] at same
      cases same
  | ok answer =>
      rw [compilation] at same
      exact ⟨answer.1, answer.2, rfl, Except.ok.inj same⟩

end PatternCache

end MmlScan
