import MmlScan.Text

/-!
# Diagnostics

A diagnostic is what a failing operation reports: its kind, a message, and as far as they are
known the text it points into, the range it points at, the line and a hint.  Rules for the texts
that are shown stand here; the operations that fail only choose the problem.
-/

namespace MmlScan

/-- The kinds of failure. -/
inductive DiagnosticKind where
  | cycle
  | badPattern
  | malformed
  | file
  deriving DecidableEq, Repr

namespace DiagnosticKind

/-- Name of the kind in error codes. -/
def name : DiagnosticKind → String
  | .cycle => "MacroCycle"
  | .badPattern => "InvalidPattern"
  | .malformed => "Syntax"
  | .file => "Io"

/-- What is said in front of every message of the kind. -/
def headline : DiagnosticKind → String
  | .cycle => "Infinite replacement macro substitution"
  | .badPattern => "Invalid pattern"
  | .malformed => "Syntax error"
  | .file => "I/O error"

end DiagnosticKind

/-- A range of byte offsets, taken as it is given: it may be inverted or lie outside the text. -/
structure Span where
  start : Nat
  stop : Nat
  deriving DecidableEq, Repr

namespace Span

/-- The empty range at an offset. -/
def point (offset : Nat) : Span :=
  ⟨offset, offset⟩

/-- Number of bytes in the range, none if it is inverted. -/
def length (span : Span) : Nat :=
  span.stop - span.start

end Span

/-- A text with the name under which it is shown. -/
structure NamedText where
  name : String
  text : Text
  deriving DecidableEq, Repr

/-- A note on a range of a text. -/
structure Label where
  text : String
  /-- First byte offset of the range. -/
  start : Nat
  /-- Number of bytes in the range. -/
  length : Nat
  deriving DecidableEq, Repr

/-- A report of a failure. -/
structure Diagnostic where
  kind : DiagnosticKind
  message : String
  source : Option NamedText
  span : Option Span
  /-- The line of that text, counting from one. -/
  line : Option Nat
  help : Option String
  cause : Option String
  deriving DecidableEq, Repr

namespace Diagnostic

/-- A report that points nowhere. -/
def plain (kind : DiagnosticKind) (message : String) : Diagnostic :=
  ⟨kind, message, none, none, none, none, none⟩

/-- A report that points into a text. -/
def located (kind : DiagnosticKind) (message : String) (source : NamedText) (span : Span)
    (line : Nat) (help : Option String) : Diagnostic :=
  ⟨kind, message, some source, some span, some line, help, none⟩

/-- The report as one line. -/
def text (diagnostic : Diagnostic) : String :=
  diagnostic.kind.headline ++ ": " ++ diagnostic.message

/-- The error code. -/
def code (diagnostic : Diagnostic) : String :=
  "amkscan::" ++ diagnostic.kind.name

/-- Sets the failure behind this one; the latest stays. -/
def withCause (diagnostic : Diagnostic) (cause : String) : Diagnostic :=
  { diagnostic with cause := some cause }

/-- Renames the text that the report points into, if there is one. -/
def withSourceName (diagnostic : Diagnostic) (name : String) : Diagnostic :=
  { diagnostic with source := diagnostic.source.map ({ · with name := name }) }

/-- The note on the range pointed at.  A range needs a text to be shown in. -/
def label? (diagnostic : Diagnostic) : Option Label :=
  match diagnostic.source, diagnostic.span with
  | some _, some span =>
      let note := match diagnostic.line with
        | some line => "line " ++ toString line ++ ": " ++ diagnostic.message
        | none => diagnostic.message
      some ⟨note, span.start, span.length⟩
  | _, _ => none

end Diagnostic

/-- What can be wrong with a source text. -/
inductive SourceProblem where
  | numberTooLarge
  | unterminatedString
  | missingEquals
  | emptyKey
  | unrecognized
  deriving DecidableEq, Repr

/-- The message for a problem. -/
def SourceProblem.message : SourceProblem → String
  | .numberTooLarge => "number is too large"
  | .unterminatedString => "unterminated string"
  | .missingEquals => "replacement directive is missing `=`"
  | .emptyKey => "replacement directive has an empty key"
  | .unrecognized => "unrecognized input"

end MmlScan
