import MmlScan.View

/-!
# Expansions in progress

While a macro is being expanded, its replacement is read instead of the text around the key.  An
expansion remembers the view of that text and where to go on in it.  Expansions are nested, and no
key is expanded inside its own expansion.
-/

namespace MmlScan

/-- An expansion in progress. -/
structure Expansion where
  /-- The key that is being expanded. -/
  key : Text
  /-- The view of the buffer in which the key was met. -/
  enclosing : View
  /-- Where to go on in that buffer, as a byte offset. -/
  resume : Nat
  deriving DecidableEq, Repr

/-- The expansions in progress. -/
structure Expansions where
  /-- The expansions, innermost first. -/
  frames : List Expansion
  /-- No key is being expanded twice. -/
  distinct : (frames.map (·.key)).Nodup
  deriving DecidableEq

namespace Expansions

theorem eq_of_frames {left right : Expansions} (same : left.frames = right.frames) :
    left = right := by
  cases left
  cases right
  cases same
  rfl

/-- No expansion is in progress. -/
def empty : Expansions :=
  ⟨[], .nil⟩

/-- The key is being expanded, at any depth. -/
def isActive (expansions : Expansions) (key : Text) : Bool :=
  expansions.frames.any (·.key = key)

theorem isActive_iff {expansions : Expansions} {key : Text} :
    expansions.isActive key = true ↔ key ∈ expansions.frames.map (·.key) := by
  simp [isActive]

/-- Begins an expansion inside the others, unless its key is being expanded already. -/
def push? (expansions : Expansions) (frame : Expansion) : Option Expansions :=
  if active : expansions.isActive frame.key then none
  else
    some
      ⟨frame :: expansions.frames,
        List.nodup_cons.mpr ⟨fun found => active (isActive_iff.mpr found), expansions.distinct⟩⟩

/-- Ends the innermost expansion. -/
def pop? (expansions : Expansions) : Option (Expansion × Expansions) :=
  match expansions with
  | ⟨[], _⟩ => none
  | ⟨frame :: frames, distinct⟩ => some (frame, ⟨frames, (List.nodup_cons.mp distinct).2⟩)

/-- Number of expansions in progress. -/
def depth (expansions : Expansions) : Nat :=
  expansions.frames.length

/-- The keys that are being expanded, outermost first. -/
def keys (expansions : Expansions) : List Text :=
  (expansions.frames.map (·.key)).reverse

/-- The key of the innermost expansion. -/
def innermost? (expansions : Expansions) : Option Text :=
  expansions.frames.head?.map (·.key)

end Expansions

/-- An attempt to expand a key inside its own expansion. -/
structure MacroCycle where
  /-- The key that was refused. -/
  key : Text
  /-- The keys that were being expanded, outermost first. -/
  chain : List Text
  deriving DecidableEq, Repr

/-- The chain of expansions, closed by the key that was refused. -/
def MacroCycle.text (cycle : MacroCycle) : String :=
  let arrow := " -> ".toList
  String.ofList (Text.joinWith arrow cycle.chain ++ arrow ++ cycle.key)

end MmlScan
