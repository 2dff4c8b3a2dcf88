import MmlScan.Pattern
import MmlScan.Pattern.Places

/-!
# Matching

A pattern is matched by following all of its threads at once, one character at a time.  A thread
is the set of characters it can read next and the patterns still to be matched afterwards, its
agenda.  Threads are kept in order of preference, and a place of the pattern that was met before at
the same position is not followed again: whatever it leads to has been reached by a preferred
thread.  So the work at a position is bounded by the number of places, whatever the pattern
repeats.

The result is that of trying the alternatives in their order and taking the first that succeeds.
A search goes through a text once: as long as no match has been completed, every position starts a
thread of its own, behind those that started earlier.
-/

namespace MmlScan
namespace Pattern

/-- One way in which a match can go on. -/
inductive Thread where
  | accept (start : Nat)
  /-- The match needs a character of the set, and then the patterns of the agenda. -/
  | read (start : Nat) (set : CharSet) (agenda : List Pattern)
  deriving DecidableEq, Repr

/-- Where a complete match starts. -/
def Thread.accepted? : Thread → Option Nat
  | .accept start => some start
  | .read .. => none

/-- What is known at one position: the threads found, the preferred ones last, and the places
already met. -/
structure Frontier where
  /-- Threads found so far, latest first. -/
  found : List Thread
  /-- Places that need not be followed again. -/
  met : Places
  deriving DecidableEq, Repr

namespace Frontier

/-- Nothing found yet. -/
def start : Frontier :=
  ⟨[], .empty⟩

/-- The threads in order of preference. -/
def threads (frontier : Frontier) : List Thread :=
  frontier.found.reverse

/-- Adds a thread behind those already found. -/
def push (thread : Thread) (frontier : Frontier) : Frontier :=
  { frontier with found := thread :: frontier.found }

/-- Follows a place unless it was met before. -/
def meet (place : Nat) (follow : Frontier → Frontier) (frontier : Frontier) : Frontier :=
  if frontier.met.contains place then frontier
  else follow { frontier with met := frontier.met.insert place }

end Frontier

/-- Finds the threads of a pattern at a position between two characters, for a match that starts
at `start`.  `agenda` is what remains after the pattern, and `leave` follows that agenda from this
position.

A copy that `more` begins and that matches nothing leads back to the same place, which has been
met, so nothing is left to follow then. -/
def explore (start : Nat) (before after : Option Char) :
    Pattern → List Pattern → (Frontier → Frontier) → Frontier → Frontier
  | .empty, _, leave => leave
  | .char place set, agenda, _ => Frontier.meet place (Frontier.push (.read start set agenda))
  | .look condition, _, leave => fun frontier =>
      if condition.holds before after then leave frontier else frontier
  | .seq first second, agenda, leave =>
      explore start before after first (second :: agenda)
        (explore start before after second agenda leave)
  | .alt place first second, agenda, leave =>
      Frontier.meet place fun frontier =>
        explore start before after second agenda leave
          (explore start before after first agenda leave frontier)
  | .more place true body, agenda, leave =>
      Frontier.meet place fun frontier =>
        leave (explore start before after body (.more place true body :: agenda) id frontier)
  | .more place false body, agenda, leave =>
      Frontier.meet place fun frontier =>
        explore start before after body (.more place false body :: agenda) id (leave frontier)

/-- Finds the threads of an agenda at a position between two characters. -/
def exploreAll (start : Nat) (before after : Option Char) : List Pattern → Frontier → Frontier
  | [] => Frontier.push (.accept start)
  | pattern :: agenda =>
      explore start before after pattern agenda (exploreAll start before after agenda)

/-- Adds what a thread leads to when `c` is read, where `after` is the character behind it. -/
def advance (c : Char) (after : Option Char) (frontier : Frontier) : Thread → Frontier
  | .accept _ => frontier
  | .read start set agenda =>
      if set.contains c then exploreAll start (some c) after agenda frontier else frontier

/-- A search for a match. -/
structure Search where
  pattern : Pattern
  /-- The match has to start at the front of the text. -/
  anchored : Bool

namespace Search

/-- The threads at a position, with those of a match that starts here if one can. -/
def threadsAt (search : Search) (position : Nat) (before after : Option Char)
    (best : Option (Nat × Nat)) (frontier : Frontier) : List Thread :=
  if best.isNone && (position = 0 || !search.anchored) then
    (exploreAll position before after [search.pattern] frontier).threads
  else
    frontier.threads

/-- The match that the threads at a position make the preferred one.  A complete match is preferred
to all that were completed before, because these ended the threads behind them. -/
def bestAt (position : Nat) (threads : List Thread) (best : Option (Nat × Nat)) :
    Option (Nat × Nat) :=
  match threads.findSome? Thread.accepted? with
  | some start => some (start, position)
  | none => best

/-- Follows the threads through a text whose front has been read up to a position.  The answer is
where the match starts and where it stops. -/
def run (search : Search) (position : Nat) (before : Option Char) (best : Option (Nat × Nat))
    (frontier : Frontier) : Text → Option (Nat × Nat)
  | [] => bestAt position (search.threadsAt position before none best frontier) best
  | c :: rest =>
      let threads := search.threadsAt position before (some c) best frontier
      let best := bestAt position threads best
      let live := threads.takeWhile (·.accepted?.isNone)
      if live.isEmpty && (search.anchored || best.isSome) then best
      else search.run (position + 1) (some c) best (live.foldl (advance c rest.head?) .start) rest

theorem bestAt_eq_some {position start stop : Nat} {threads : List Thread}
    {best : Option (Nat × Nat)} (reached : bestAt position threads best = some (start, stop)) :
    best = some (start, stop) ∨ bestAt position threads none = some (start, stop) := by
  rw [bestAt] at reached ⊢
  split at reached
  · exact .inr reached
  · exact .inl reached

theorem stop_of_bestAt {position start stop : Nat} {threads : List Thread}
    (reached : bestAt position threads none = some (start, stop)) : stop = position := by
  rw [bestAt] at reached
  split at reached <;> cases reached
  rfl

/-- A match stops behind what has been read, unless it was complete before. -/
theorem run_eq_some {search : Search} {position start stop : Nat} {before : Option Char}
    {best : Option (Nat × Nat)} {frontier : Frontier} {text : Text}
    (success : search.run position before best frontier text = some (start, stop)) :
    best = some (start, stop) ∨
      bestAt position (search.threadsAt position before text.head? best frontier) none =
        some (start, stop) ∨
      position < stop := by
  induction text generalizing position before best frontier with
  | nil => exact (bestAt_eq_some success).imp_right .inl
  | cons c rest ih =>
      rw [run] at success
      split at success
      · exact (bestAt_eq_some success).imp_right .inl
      · rcases ih success with kept | reached | longer
        · exact (bestAt_eq_some kept).imp_right .inl
        · have stop_eq := stop_of_bestAt reached
          exact .inr (.inr (by omega))
        · exact .inr (.inr (by omega))

end Search

/-- Length of the preferred match at the front of a text. -/
def matchFront? (pattern : Pattern) (text : Text) : Option Nat :=
  (Search.run ⟨pattern, true⟩ 0 none none .start text).map (·.2)

/-- Where the first match in a text starts and where it stops, as numbers of characters. -/
def find? (pattern : Pattern) (text : Text) : Option (Nat × Nat) :=
  Search.run ⟨pattern, false⟩ 0 none none .start text

end Pattern
end MmlScan
