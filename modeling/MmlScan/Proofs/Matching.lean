import MmlScan.Pattern.Match
import MmlScan.Pattern.Parse
import MmlScan.Token
import Mathlib.Data.List.TakeWhile

/-!
# Where matches lie

Whatever is followed at a position, a frontier keeps the threads it has and finds others behind
them.  Threads start at positions that have been reached, so a match never stops before it starts,
and it stops within the text.  A run of characters of one set is followed to its end; the pattern
of tokens takes a run of digits, or else one character that is no blank.
-/

namespace MmlScan
namespace Pattern

/-- The position at which the match of a thread starts. -/
def Thread.start : Thread → Nat
  | .accept start => start
  | .read start _ _ => start

/-! ## How frontiers grow -/

namespace Frontier

/-- A frontier keeps what it has found and finds further threads behind it, whose matches start at
certain positions. -/
def Grows (starts : Nat → Prop) (before after : Frontier) : Prop :=
  ∃ added, after.found = added ++ before.found ∧ ∀ thread ∈ added, starts thread.start

namespace Grows

variable {starts : Nat → Prop} {first second third : Frontier}

theorem refl (starts : Nat → Prop) (frontier : Frontier) : frontier.Grows starts frontier :=
  ⟨[], rfl, List.forall_mem_nil _⟩

theorem trans (former : first.Grows starts second) (latter : second.Grows starts third) :
    first.Grows starts third := by
  obtain ⟨earlier, second_eq, earlier_start⟩ := former
  obtain ⟨later, third_eq, later_start⟩ := latter
  refine ⟨later ++ earlier, ?_, List.forall_mem_append.mpr ⟨later_start, earlier_start⟩⟩
  rw [third_eq, second_eq, List.append_assoc]

/-- The threads found are those found before and preferred ones in front of no other. -/
theorem threads_eq (grows : first.Grows starts second) :
    ∃ later, second.threads = first.threads ++ later ∧ ∀ thread ∈ later, starts thread.start := by
  obtain ⟨added, found_eq, added_start⟩ := grows
  refine ⟨added.reverse, ?_, fun thread member => added_start thread (List.mem_reverse.mp member)⟩
  rw [threads, threads, found_eq, List.reverse_append]

end Grows

variable {starts : Nat → Prop}

theorem grows_push {thread : Thread} (allowed : starts thread.start) (frontier : Frontier) :
    frontier.Grows starts (frontier.push thread) :=
  ⟨[thread], rfl, List.forall_mem_singleton.mpr allowed⟩

theorem grows_meet {follow : Frontier → Frontier}
    (grows : ∀ frontier : Frontier, frontier.Grows starts (follow frontier)) (place : Nat)
    (frontier : Frontier) : frontier.Grows starts (frontier.meet place follow) := by
  rw [meet]
  split
  · exact .refl starts frontier
  · exact grows { frontier with met := frontier.met.insert place }

end Frontier

section Growth

variable (starts : Nat → Prop) {start : Nat}

theorem grows_explore (allowed : starts start) (before after : Option Char) (pattern : Pattern)
    (agenda : List Pattern) {leave : Frontier → Frontier}
    (grows : ∀ frontier : Frontier, frontier.Grows starts (leave frontier)) (frontier : Frontier) :
    frontier.Grows starts (explore start before after pattern agenda leave frontier) := by
  induction pattern generalizing agenda leave frontier with
  | empty => exact grows frontier
  | char place set =>
      exact Frontier.grows_meet (fun _ => Frontier.grows_push allowed _) place frontier
  | look condition =>
      rw [explore]
      split
      · exact grows frontier
      · exact .refl starts frontier
  | seq first second first_ih second_ih => exact first_ih _ (second_ih agenda grows) frontier
  | alt place first second first_ih second_ih =>
      refine Frontier.grows_meet (fun inner => ?_) place frontier
      exact (first_ih agenda grows inner).trans (second_ih agenda grows _)
  | more place greedy body ih =>
      have copy := ih (.more place greedy body :: agenda) (Frontier.Grows.refl starts)
      cases greedy with
      | true => exact Frontier.grows_meet (fun inner => (copy inner).trans (grows _)) place frontier
      | false =>
          exact Frontier.grows_meet (fun inner => (grows inner).trans (copy _)) place frontier

theorem grows_exploreAll (allowed : starts start) (before after : Option Char)
    (agenda : List Pattern) (frontier : Frontier) :
    frontier.Grows starts (exploreAll start before after agenda frontier) := by
  induction agenda generalizing frontier with
  | nil => exact Frontier.grows_push allowed frontier
  | cons pattern agenda ih =>
      exact grows_explore starts allowed before after pattern agenda ih frontier

/-- Threads that read a character lead to threads of the same matches. -/
theorem grows_foldl_advance (c : Char) (after : Option Char) {threads : List Thread}
    (threads_start : ∀ thread ∈ threads, starts thread.start) (frontier : Frontier) :
    frontier.Grows starts (threads.foldl (advance c after) frontier) := by
  induction threads generalizing frontier with
  | nil => exact .refl starts frontier
  | cons thread threads ih =>
      obtain ⟨allowed, others_start⟩ := List.forall_mem_cons.mp threads_start
      refine Frontier.Grows.trans ?_ (ih others_start _)
      cases thread with
      | accept start => exact .refl starts frontier
      | read start set agenda =>
          rw [advance]
          split
          · exact grows_exploreAll starts allowed _ _ agenda frontier
          · exact .refl starts frontier

end Growth

/-! ## Where matches start and stop -/

/-- Every thread found has started by a position. -/
def Frontier.StartedBy (position : Nat) (frontier : Frontier) : Prop :=
  ∀ thread ∈ frontier.found, thread.start ≤ position

theorem startedBy_start (position : Nat) : Frontier.start.StartedBy position := by
  intro thread found
  cases found

theorem Frontier.Grows.startedBy {position : Nat} {before after : Frontier}
    (grows : before.Grows (· ≤ position) after) (started : before.StartedBy position) :
    after.StartedBy position := by
  obtain ⟨added, found_eq, added_started⟩ := grows
  rw [Frontier.StartedBy, found_eq]
  exact List.forall_mem_append.mpr ⟨added_started, started⟩

namespace Search

theorem threadsAt_start_le {search : Search} {position : Nat} {before after : Option Char}
    {best : Option (Nat × Nat)} {frontier : Frontier} (started : frontier.StartedBy position) :
    ∀ thread ∈ search.threadsAt position before after best frontier, thread.start ≤ position := by
  intro thread found
  rw [threadsAt] at found
  split at found
  · have grows := grows_exploreAll (· ≤ position) (Nat.le_refl position) before after
    have explored := (grows [search.pattern] frontier).startedBy started
    exact explored thread (List.mem_reverse.mp found)
  · exact started thread (List.mem_reverse.mp found)

theorem bestAt_ordered {position : Nat} {threads : List Thread} {best : Option (Nat × Nat)}
    (threads_started : ∀ thread ∈ threads, thread.start ≤ position)
    (ordered : ∀ answer ∈ best, answer.1 ≤ answer.2 ∧ answer.2 ≤ position) :
    ∀ answer ∈ bestAt position threads best, answer.1 ≤ answer.2 ∧ answer.2 ≤ position := by
  intro reached found
  rw [bestAt] at found
  split at found
  · next start accepted =>
      cases found
      obtain ⟨thread, member, accepts⟩ := List.exists_of_findSome?_eq_some accepted
      have start_le := threads_started thread member
      cases thread with
      | accept first =>
          cases accepts
          exact ⟨start_le, Nat.le_refl position⟩
      | read first set agenda => cases accepts
  · exact ordered reached found

theorem run_ordered {search : Search} {position : Nat} {before : Option Char}
    {best : Option (Nat × Nat)} {frontier : Frontier} {text : Text}
    (ordered : ∀ answer ∈ best, answer.1 ≤ answer.2 ∧ answer.2 ≤ position)
    (started : frontier.StartedBy position) :
    ∀ answer ∈ search.run position before best frontier text,
      answer.1 ≤ answer.2 ∧ answer.2 ≤ position + text.length := by
  induction text generalizing position before best frontier with
  | nil => exact bestAt_ordered (threadsAt_start_le started) ordered
  | cons c rest ih =>
      intro reached found
      have threads_started : ∀ thread ∈ search.threadsAt position before (some c) best frontier,
          thread.start ≤ position := threadsAt_start_le started
      have best_ordered := bestAt_ordered threads_started ordered
      have live_started : ∀ thread ∈ (search.threadsAt position before (some c) best
          frontier).takeWhile (·.accepted?.isNone), thread.start ≤ position + 1 :=
        fun thread live =>
          Nat.le_succ_of_le (threads_started thread (List.takeWhile_subset _ live))
      rw [List.length_cons]
      rw [run] at found
      split at found
      · have bounds := best_ordered reached found
        omega
      · have later_ordered := fun earlier kept =>
          (best_ordered earlier kept).imp_right Nat.le_succ_of_le
        have grows := grows_foldl_advance (· ≤ position + 1) c rest.head? live_started .start
        have bounds := ih later_ordered (grows.startedBy (startedBy_start _)) reached found
        omega

end Search

/-- A match stops behind its start and within the text. -/
theorem find_ordered {pattern : Pattern} {text : Text} {start stop : Nat}
    (found : pattern.find? text = some (start, stop)) : start ≤ stop ∧ stop ≤ text.length := by
  have bounds := Search.run_ordered (by simp) (startedBy_start 0) (start, stop) found
  simpa using bounds

theorem matchFront_le {pattern : Pattern} {text : Text} {length : Nat}
    (found : pattern.matchFront? text = some length) : length ≤ text.length := by
  obtain ⟨⟨start, stop⟩, reached, rfl⟩ := Option.map_eq_some_iff.mp found
  have bounds := Search.run_ordered (by simp) (startedBy_start 0) (start, stop) reached
  simpa using bounds.2

/-! ## Following the threads of an anchored search -/

namespace Search

variable {pattern : Pattern} {frontier : Frontier} {threads : List Thread}

/-- Behind the front of a text no match begins. -/
theorem threadsAt_anchored (position : Nat) (before after : Option Char)
    (best : Option (Nat × Nat)) (frontier : Frontier) :
    threadsAt ⟨pattern, true⟩ (position + 1) before after best frontier = frontier.threads := by
  simp [threadsAt]

theorem run_without_threads (position : Nat) (before : Option Char) (best : Option (Nat × Nat))
    (text : Text) (shape : frontier.threads = []) :
    run ⟨pattern, true⟩ (position + 1) before best frontier text = best := by
  cases text <;> simp [run, threadsAt_anchored, bestAt, shape]

theorem run_accepted (position start : Nat) (before : Option Char) (best : Option (Nat × Nat))
    (text : Text) (shape : frontier.threads = [.accept start]) :
    run ⟨pattern, true⟩ (position + 1) before best frontier text = some (start, position + 1) := by
  cases text <;> simp [run, threadsAt_anchored, bestAt, shape, Thread.accepted?]

/-- An anchored search goes on behind every character; where nothing lives, that changes nothing. -/
theorem run_cons_anchored {position : Nat} {before : Option Char} {best : Option (Nat × Nat)}
    {c : Char} {rest : Text}
    (threads_eq : threadsAt ⟨pattern, true⟩ position before (some c) best frontier = threads) :
    run ⟨pattern, true⟩ position before best frontier (c :: rest) =
      run ⟨pattern, true⟩ (position + 1) (some c) (bestAt position threads best)
        ((threads.takeWhile (·.accepted?.isNone)).foldl (advance c rest.head?) .start) rest := by
  rw [run, threads_eq]
  dsimp only
  cases threads.takeWhile (·.accepted?.isNone) with
  | nil => exact (run_without_threads position (some c) _ rest rfl).symm
  | cons thread live => rfl

theorem bestAt_of_pending {position : Nat} {best : Option (Nat × Nat)}
    (pending : ∀ thread ∈ threads, thread.accepted? = none) :
    bestAt position threads best = best := by
  rw [bestAt, List.findSome?_eq_none_iff.mpr pending]

theorem takeWhile_of_pending (pending : ∀ thread ∈ threads, thread.accepted? = none) :
    threads.takeWhile (·.accepted?.isNone) = threads :=
  List.takeWhile_eq_self_iff.mpr fun thread member => by simp [pending thread member]

/-- While no thread accepts, all of them read the next character. -/
theorem run_cons_of_pending {position : Nat} {before : Option Char} {c : Char} {rest : Text}
    (threads_eq : threadsAt ⟨pattern, true⟩ position before (some c) none frontier = threads)
    (pending : ∀ thread ∈ threads, thread.accepted? = none) :
    run ⟨pattern, true⟩ position before none frontier (c :: rest) =
      run ⟨pattern, true⟩ (position + 1) (some c) none
        (threads.foldl (advance c rest.head?) .start) rest := by
  rw [run_cons_anchored threads_eq, bestAt_of_pending pending, takeWhile_of_pending pending]

/-- A single thread reads the next character, or the search is over. -/
theorem run_cons_read {position start : Nat} {before : Option Char} {c : Char} {rest : Text}
    {set : CharSet} {agenda : List Pattern}
    (threads_eq : threadsAt ⟨pattern, true⟩ position before (some c) none frontier =
      [.read start set agenda]) :
    run ⟨pattern, true⟩ position before none frontier (c :: rest) =
      if set.contains c then
        run ⟨pattern, true⟩ (position + 1) (some c) none
          (exploreAll start (some c) rest.head? agenda .start) rest
      else none := by
  rw [run_cons_of_pending threads_eq (List.forall_mem_singleton.mpr rfl), List.foldl_cons,
    List.foldl_nil, advance]
  split
  · rfl
  · exact run_without_threads _ _ _ _ rfl

end Search

/-! ## Runs of characters -/

/-- One character of a set and any number of further ones. -/
def many (first further : Nat) (set : CharSet) : Pattern :=
  .seq (.char first set) (.more further true (.char first set))

/-- A run of characters that goes on. -/
def manyThread (first further : Nat) (set : CharSet) : Thread :=
  .read 0 set [.more further true (.char first set)]

section Runs

variable {first further : Nat} {set : CharSet} {pattern : Pattern} {frontier : Frontier}

theorem threads_exploreAll_many (before after : Option Char) :
    (exploreAll 0 before after [many first further set] .start).threads =
      [manyThread first further set] := by
  simp [exploreAll, explore, many, Frontier.meet, Frontier.push, Frontier.start, Frontier.threads,
    manyThread]

/-- A character of the set leads to the end of a match, behind a run that goes on. -/
theorem advance_manyThread (different : first ≠ further) {c : Char}
    (member : set.contains c = true) (after : Option Char) :
    advance c after .start (manyThread first further set) =
      ⟨[.accept 0, manyThread first further set], (Places.empty.insert further).insert first⟩ := by
  have unmet : ((Places.empty.insert further).contains first) = false := by simp [different.symm]
  simp [manyThread, advance, member, exploreAll, explore, Frontier.meet, Frontier.push,
    Frontier.start, unmet]

theorem advance_of_not_contains {c : Char} {start : Nat} {agenda : List Pattern}
    (outside : set.contains c = false) (after : Option Char) (frontier : Frontier) :
    advance c after frontier (.read start set agenda) = frontier := by
  rw [advance, outside, if_neg Bool.false_ne_true]

/-- A run of characters is followed to its end. -/
theorem run_further (different : first ≠ further) (others : List Thread) (position : Nat)
    (before : Option Char) (best : Option (Nat × Nat)) (text : Text)
    (shape : frontier.threads = manyThread first further set :: .accept 0 :: others) :
    Search.run ⟨pattern, true⟩ (position + 1) before best frontier text =
      some (0, position + 1 + (text.takeWhile set.contains).length) := by
  have best_eq (best : Option (Nat × Nat)) : Search.bestAt (position + 1)
      (manyThread first further set :: .accept 0 :: others) best = some (0, position + 1) := rfl
  induction text generalizing position before best frontier others with
  | nil =>
      rw [Search.run, Search.threadsAt_anchored, shape]
      rfl
  | cons c rest ih =>
      have live_eq : (manyThread first further set :: .accept 0 :: others).takeWhile
          (·.accepted?.isNone) = [manyThread first further set] := rfl
      rw [Search.run, Search.threadsAt_anchored, shape]
      simp only [live_eq, best_eq, List.isEmpty_cons, Bool.false_and, Bool.false_eq_true, if_false,
        List.foldl_cons, List.foldl_nil]
      by_cases member : set.contains c = true
      · rw [advance_manyThread different member,
          ih [] (position + 1) (some c) _ rfl (fun _ => rfl), List.takeWhile_cons_of_pos member,
          List.length_cons]
        congr 2
        omega
      · rw [Bool.not_eq_true] at member
        rw [manyThread, advance_of_not_contains member, Search.run_without_threads _ _ _ _ rfl,
          List.takeWhile_cons_of_neg (by simp [member])]
        rfl

/-- Length of the run of characters with a property at the front of a text, if there is one. -/
def runLength? (property : Char → Bool) (text : Text) : Option Nat :=
  if text.takeWhile property = [] then none else some (text.takeWhile property).length

/-- A run of characters that begins here is matched as far as it goes. -/
theorem run_advance_many (different : first ≠ further) (position : Nat) (c : Char) (rest : Text) :
    Search.run ⟨pattern, true⟩ (position + 1) (some c) none
        (advance c rest.head? .start (manyThread first further set)) rest =
      (runLength? set.contains (c :: rest)).map fun length => (0, position + length) := by
  rw [runLength?]
  by_cases member : set.contains c = true
  · rw [advance_manyThread different member, run_further different [] _ _ _ _ rfl,
      List.takeWhile_cons_of_pos member, if_neg (List.cons_ne_nil _ _), List.length_cons]
    simp only [Option.map_some]
    congr 2
    omega
  · rw [Bool.not_eq_true] at member
    rw [manyThread, advance_of_not_contains member, Search.run_without_threads _ _ _ _ rfl,
      List.takeWhile_cons_of_neg (by simp [member]), if_pos rfl]
    rfl

/-- Where a run of characters is all that can be matched, it is matched as far as it goes. -/
theorem run_many (different : first ≠ further) {position : Nat} {before : Option Char} {text : Text}
    (threads_eq : Search.threadsAt ⟨pattern, true⟩ position before text.head? none frontier =
      [manyThread first further set]) :
    Search.run ⟨pattern, true⟩ position before none frontier text =
      (runLength? set.contains text).map fun length => (0, position + length) := by
  have pending : ∀ thread ∈ [manyThread first further set], thread.accepted? = none :=
    List.forall_mem_singleton.mpr rfl
  cases text with
  | nil =>
      rw [Search.run, ← List.head?_nil, threads_eq]
      rfl
  | cons c rest =>
      rw [Search.run_cons_of_pending threads_eq pending, List.foldl_cons, List.foldl_nil,
        run_advance_many different]

theorem matchFront_many (different : first ≠ further) (text : Text) :
    (many first further set).matchFront? text = runLength? set.contains text := by
  have threads_eq : Search.threadsAt ⟨many first further set, true⟩ 0 none text.head? none .start =
      [manyThread first further set] :=
    threads_exploreAll_many none text.head?
  rw [matchFront?, run_many different threads_eq, Option.map_map]
  cases runLength? set.contains text with
  | none => rfl
  | some length => exact congrArg some (Nat.zero_add length)

end Runs

/-! ## The pattern of tokens -/

/-- A run of digits, or one character that is no blank. -/
def token : Pattern :=
  .alt 0
    (.seq (.char 1 (.range '0' '9')) (.more 2 true (.char 1 (.range '0' '9'))))
    (.char 3 (.complement (.named .blank)))

theorem parse_token : parse? false Token.pattern = some token := rfl

theorem contains_digits (c : Char) : (CharSet.range '0' '9').contains c = c.isDigit := by
  simp only [CharSet.contains, Char.isDigit, Char.le_def]

theorem isBlank_of_isDigit {c : Char} (digit : c.isDigit = true) : Text.isBlank c = false := by
  rw [Char.isDigit, Bool.and_eq_true, decide_eq_true_eq, decide_eq_true_eq] at digit
  have bounds : 48 ≤ c.toNat ∧ c.toNat ≤ 57 := digit
  simp only [Text.isBlank, Text.inRanges, Text.blankRanges, List.any_cons, List.any_nil,
    Bool.or_false, Bool.or_eq_false_iff, Bool.and_eq_false_iff, decide_eq_false_iff_not]
  omega

/-- The threads at the front of a text: a run of digits, and behind it any one character. -/
def tokenThreads : List Thread :=
  [manyThread 1 2 (.range '0' '9'), .read 0 (.complement (.named .blank)) []]

theorem threads_exploreAll_token (before after : Option Char) :
    (exploreAll 0 before after [token] .start).threads = tokenThreads := by
  simp [exploreAll, explore, token, Frontier.meet, Frontier.push, Frontier.start,
    Frontier.threads, tokenThreads, manyThread]

/-- Length of the token at the front of a text: that of its run of digits, or one. -/
def tokenLength? : Text → Option Nat
  | [] => none
  | c :: rest =>
      if c.isDigit then some ((c :: rest).takeWhile Char.isDigit).length
      else if Text.isBlank c then none
      else some 1

theorem matchFront_token (text : Text) : token.matchFront? text = tokenLength? text := by
  cases text with
  | nil => rfl
  | cons c rest =>
      have blank_eq : (CharSet.complement (.named .blank)).contains c = !Text.isBlank c := rfl
      have digits_eq : (CharSet.range '0' '9').contains = Char.isDigit := funext contains_digits
      have pending : ∀ thread ∈ tokenThreads, thread.accepted? = none := by
        simp [tokenThreads, manyThread, Thread.accepted?]
      have threads_eq : Search.threadsAt ⟨token, true⟩ 0 none (some c) none .start = tokenThreads :=
        threads_exploreAll_token none (some c)
      rw [matchFront?, Search.run_cons_of_pending threads_eq pending, tokenThreads,
        List.foldl_cons, List.foldl_cons, List.foldl_nil, tokenLength?]
      by_cases digit : c.isDigit = true
      · rw [if_pos digit, advance_manyThread (by decide) (digits_eq ▸ digit), advance, blank_eq,
          isBlank_of_isDigit digit, Bool.not_false, if_pos rfl,
          run_further (by decide) [.accept 0] 0 (some c) none rest rfl, digits_eq,
          List.takeWhile_cons_of_pos digit, List.length_cons]
        simp [Nat.add_comm]
      · have no_digit : (CharSet.range '0' '9').contains c = false := by
          simpa [digits_eq] using digit
        rw [if_neg digit, manyThread, advance_of_not_contains no_digit]
        by_cases blank : Text.isBlank c = true
        · rw [if_pos blank, advance_of_not_contains (by rw [blank_eq, blank]; rfl),
            Search.run_without_threads _ _ _ _ rfl]
          rfl
        · rw [Bool.not_eq_true] at blank
          rw [blank, if_neg Bool.false_ne_true, advance, blank_eq, blank, Bool.not_false,
            if_pos rfl, Search.run_accepted 0 0 (some c) none rest rfl]
          rfl

end Pattern
end MmlScan
