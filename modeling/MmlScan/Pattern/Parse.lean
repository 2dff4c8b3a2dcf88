import MmlScan.Pattern.Expression
import MmlScan.Pattern.Symbol

/-!
# Reading patterns

The symbols of a written pattern are put together from left to right.  A draft holds what has been
read of the innermost open group and, for every group around it, what had been read when the inner
one began.  A pattern that is nested too deeply is refused.

These can be written:

* characters, `.`, the kinds `\d`, `\s`, `\w` and their complements `\D`, `\S`, `\W`, and escapes of
  control characters, code points and marks;
* sets in brackets, of characters, ranges, kinds, other sets and ASCII names as in `[[:alpha:]]`,
  with the operators `&&`, `--` and `~~` between rows of members, taken from left to right;
* groups, with or without a number or a name, alternatives, and the repetitions `*`, `+`, `?`,
  `{n}`, `{n,}` and `{n,m}`, each for as few copies as possible if `?` follows;
* the conditions `^`, `$`, `\A`, `\z`, `\b`, `\B`, `\<`, `\>`, and `\b{start}`, `\b{end}`,
  `\b{start-half}`, `\b{end-half}`;
* the flags `i`, `m`, `s`, `U`, `R`, on and off, for the rest of a group or for one of its own; `u`
  can be switched on and `x` off, which changes nothing.

The escapes `\p` and `\P` of Unicode properties, `x` on and `u` off are left out: they are refused
like what is malformed.  No bound is set on the size of a pattern.
-/

namespace MmlScan
namespace Pattern

/-- The flags in force at a place of a pattern. -/
structure Flags where
  ignoreCase : Bool
  multiLine : Bool := false
  dotNewline : Bool := false
  swapGreed : Bool := false
  carriageReturn : Bool := false
  deriving DecidableEq, Repr

namespace Flags

/-- The flags after one change. -/
def change (flags : Flags) : Flag × Bool → Flags
  | (.ignoreCase, value) => { flags with ignoreCase := value }
  | (.multiLine, value) => { flags with multiLine := value }
  | (.dotNewline, value) => { flags with dotNewline := value }
  | (.swapGreed, value) => { flags with swapGreed := value }
  | (.carriageReturn, value) => { flags with carriageReturn := value }
  | (.unicode, _) | (.spaced, _) => flags

/-- The characters that a dot does not stand for. -/
def dotExceptions (flags : Flags) : CharSet :=
  if flags.dotNewline then .empty
  else if flags.carriageReturn then .union (.single '\n') (.single '\r')
  else .single '\n'

/-- The condition of the mark of a start. -/
def startCondition (flags : Flags) : Look :=
  if flags.multiLine then (if flags.carriageReturn then .returnStart else .lineStart)
  else .textStart

/-- The condition of the mark of an end. -/
def endCondition (flags : Flags) : Look :=
  if flags.multiLine then (if flags.carriageReturn then .returnEnd else .lineEnd)
  else .textEnd

end Flags

/-- The set of one character that stands for itself. -/
def literal (ignoreCase : Bool) (c : Char) : CharSet :=
  if ignoreCase then .folded (.single c) else .single c

/-- A part of a written pattern that has been read. -/
structure Part where
  expression : Expression
  /-- How deeply it is nested. -/
  depth : Nat

namespace Part

/-- The part of a symbol that needs no other, under the flags in force. -/
def ofSymbol? (flags : Flags) : Symbol → Option Part
  | .char c => some ⟨.char (literal flags.ignoreCase c), 0⟩
  | .dot => some ⟨.char (.complement flags.dotExceptions), 0⟩
  | .named kind negated => some ⟨.char (.complementIf negated (.named kind)), 0⟩
  | .bracket ⟨set, depth⟩ =>
      some ⟨.char (if flags.ignoreCase then set else set.exactCase), depth⟩
  | .caret => some ⟨.look flags.startCondition, 0⟩
  | .dollar => some ⟨.look flags.endCondition, 0⟩
  | .look condition => some ⟨.look condition, 0⟩
  | _ => none

/-- One part for several; a single one is not nested in it. -/
def combine (expression : Expression) (parts : List Part) : Part :=
  let depth := parts.foldl (fun depth part => max depth part.depth) 0
  ⟨expression, if parts.length < 2 then depth else depth + 1⟩

/-- The parts one after the other. -/
def sequence (parts : List Part) : Part :=
  combine (.sequence (parts.map (·.expression))) parts

/-- The choice between parts, the preferred ones first. -/
def choice (parts : List Part) : Part :=
  combine (.choice (parts.map (·.expression))) parts

/-- Copies of a part. -/
def repeated (greedy : Bool) (least : Nat) (most : Option Nat) (part : Part) : Part :=
  ⟨.repeated greedy least most part.expression, part.depth + 1⟩

/-- The part as the content of a group, which has a number if it can be referred to. -/
def grouped (number : Option Nat) (part : Part) : Part :=
  let expression := match number with
    | some number => .group number part.expression
    | none => part.expression
  ⟨expression, part.depth + 1⟩

end Part

/-- The part of a group that has been read. -/
structure PartialGroup where
  /-- The number of the group, if it can be referred to. -/
  number : Option Nat
  /-- Flags in force. -/
  flags : Flags
  alternatives : List Part
  /-- Parts of the alternative that is being read, latest first. -/
  parts : List Part
  /-- The latest part can be repeated. -/
  repeatable : Bool

namespace PartialGroup

/-- A group of which nothing has been read. -/
def start (number : Option Nat) (flags : Flags) : PartialGroup :=
  ⟨number, flags, [], [], false⟩

/-- Adds a part to the alternative that is being read. -/
def add (group : PartialGroup) (part : Part) : PartialGroup :=
  { group with parts := part :: group.parts, repeatable := true }

/-- Changes the flags for what follows.  The place of the change counts as an empty part. -/
def changeFlags (group : PartialGroup) (changes : List (Flag × Bool)) : PartialGroup :=
  { group with
      flags := changes.foldl Flags.change group.flags
      parts := ⟨.empty, 0⟩ :: group.parts
      repeatable := false }

/-- Begins the next alternative. -/
def endAlternative (group : PartialGroup) : PartialGroup :=
  { group with
      alternatives := group.alternatives ++ [.sequence group.parts.reverse]
      parts := []
      repeatable := false }

/-- What the group contains. -/
def content (group : PartialGroup) : Part :=
  .choice group.endAlternative.alternatives

end PartialGroup

/-- A pattern that is being read. -/
structure Draft where
  /-- The innermost open group, or the whole pattern. -/
  group : PartialGroup
  /-- The groups around it, innermost first. -/
  enclosing : List PartialGroup
  names : List Text
  /-- Number of groups so far that can be referred to. -/
  groupCount : Nat

namespace Draft

/-- A draft of which nothing has been read. -/
def start (ignoreCase : Bool) : Draft :=
  ⟨.start none { ignoreCase }, [], [], 0⟩

/-- The draft with another innermost group. -/
def withGroup (draft : Draft) (group : PartialGroup) : Draft :=
  { draft with group := group }

/-- Opens a group inside the innermost one.  A name is given to one group only. -/
def openGroup? (draft : Draft) (kind : GroupKind) (changes : List (Flag × Bool)) : Option Draft :=
  let flags := changes.foldl Flags.change draft.group.flags
  let enclosing := draft.group :: draft.enclosing
  match kind with
  | .plain => some { draft with group := .start none flags, enclosing := enclosing }
  | .numbered name =>
      if name.any fun name => draft.names.any (· = name) then none
      else
        some
          { group := .start (some draft.groupCount) flags
            enclosing := enclosing
            names := name.toList ++ draft.names
            groupCount := draft.groupCount + 1 }

/-- Adds one symbol.  There is nothing to repeat at the start of an alternative and behind a change
of flags, and no group is closed that is not open. -/
def add? (draft : Draft) (symbol : Symbol) : Option Draft :=
  match symbol with
  | .bar => some (draft.withGroup draft.group.endAlternative)
  | .flags changes => some (draft.withGroup (draft.group.changeFlags changes))
  | .openGroup kind changes => draft.openGroup? kind changes
  | .closeGroup =>
      match draft.enclosing with
      | [] => none
      | outer :: enclosing =>
          let part := draft.group.content.grouped draft.group.number
          some { draft with group := outer.add part, enclosing := enclosing }
  | .copies greedy least most =>
      match draft.group.parts with
      | body :: parts =>
          if draft.group.repeatable then
            let greedy := greedy != draft.group.flags.swapGreed
            some (draft.withGroup
              ({ draft.group with parts := parts }.add (body.repeated greedy least most)))
          else none
      | [] => none
  | symbol => (Part.ofSymbol? draft.group.flags symbol).map (draft.withGroup <| draft.group.add ·)

/-- How deeply a pattern may be nested. -/
def depthLimit : Nat :=
  250

/-- What the pattern says, if every group is closed and none is nested too deeply. -/
def close? (draft : Draft) : Option Expression :=
  let content := draft.group.content
  if draft.enclosing.isEmpty && content.depth ≤ depthLimit then some content.expression else none

end Draft

/-- Reads what a written pattern says, ignoring case from the start if asked to. -/
def expression? (ignoreCase : Bool) (text : Text) : Option Expression := do
  let symbols ← symbols? text
  let draft ← symbols.foldlM Draft.add? (Draft.start ignoreCase)
  draft.close?

/-- Reads a written pattern, ignoring case from the start if asked to.  What can be written, and
what is left out, is listed at the head of this module. -/
def parse? (ignoreCase : Bool) (text : Text) : Option Pattern :=
  (expression? ignoreCase text).map (·.toPattern)

/-- The written form of a pattern for exactly the given text. -/
def escape (word : Text) : Text :=
  word.flatMap fun c => if c ∈ metaChars then ['\\', c] else [c]

end Pattern
end MmlScan
