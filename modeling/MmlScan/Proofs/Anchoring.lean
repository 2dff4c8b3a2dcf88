import MmlScan.Proofs.Matching

/-!
# Anchored and free searches

A free search begins a match at every position, behind the matches that began earlier.  So its
preferred threads are those of the anchored search, as long as these live, and a match at the front
of the text is found by both searches or by neither.
-/

namespace MmlScan
namespace Pattern

theorem Thread.start_of_accepted {thread : Thread} {start : Nat}
    (accepts : thread.accepted? = some start) : thread.start = start := by
  cases thread with
  | accept first => exact Option.some.inj accepts
  | read first set agenda => cases accepts

namespace Search

/-- Both searches have found the same match at the front of the text, or the anchored search has
found none and the free search none at the front. -/
def Agree (anchored free : Option (Nat × Nat)) : Prop :=
  (∃ stop, anchored = some (0, stop) ∧ free = some (0, stop)) ∨
    anchored = none ∧ ∀ answer ∈ free, 0 < answer.1

/-- The threads of a free search are those of an anchored one, and behind them those of later
matches.  There are none of these once the anchored search has found a match. -/
structure Leads (found : Bool) (front all : List Thread) : Prop where
  split : ∃ later, all = front ++ later ∧ (∀ thread ∈ later, 0 < thread.start) ∧
    (found = true → later = [])
  front_start : ∀ thread ∈ front, thread.start = 0

variable {anchored free : Option (Nat × Nat)} {front all : List Thread}

/-- A thread of the front match that accepts is preferred by both searches, and ends the others. -/
theorem Leads.bestAt_of_accepted {start : Nat} (leads : Leads anchored.isSome front all)
    (position : Nat) (free : Option (Nat × Nat))
    (accepted : front.findSome? Thread.accepted? = some start) :
    Search.bestAt position front anchored = some (0, position) ∧
      Search.bestAt position all free = some (0, position) ∧
      all.takeWhile (·.accepted?.isNone) = front.takeWhile (·.accepted?.isNone) := by
  obtain ⟨later, rfl, _, _⟩ := leads.split
  obtain ⟨thread, member, accepts⟩ := List.exists_of_findSome?_eq_some accepted
  have start_eq : start = 0 :=
    (Thread.start_of_accepted accepts).symm.trans (leads.front_start thread member)
  rw [start_eq] at accepted
  refine ⟨by rw [bestAt, accepted], by rw [bestAt, List.findSome?_append, accepted]; rfl, ?_⟩
  rw [List.takeWhile_append, if_neg]
  intro whole
  have all_pending := List.takeWhile_eq_self_iff.mp
    ((List.takeWhile_prefix _).eq_of_length whole) thread member
  simp [accepts] at all_pending

/-- The searches agree on what they have found when they leave a position, and on what is left to
follow. -/
theorem Leads.leave (leads : Leads anchored.isSome front all) (agree : Agree anchored free)
    (position : Nat) :
    Agree (bestAt position front anchored) (bestAt position all free) ∧
      Leads (bestAt position front anchored).isSome
        (front.takeWhile (·.accepted?.isNone)) (all.takeWhile (·.accepted?.isNone)) := by
  have live_start : ∀ thread ∈ front.takeWhile (·.accepted?.isNone), thread.start = 0 :=
    fun thread live => leads.front_start thread (List.takeWhile_subset _ live)
  cases accepted : front.findSome? Thread.accepted? with
  | some start =>
      obtain ⟨front_best, all_best, live_eq⟩ :=
        leads.bestAt_of_accepted position free accepted
      rw [front_best, all_best, live_eq]
      refine
        ⟨.inl ⟨position, rfl, rfl⟩, ⟨[], (List.append_nil _).symm, ?_, fun _ => rfl⟩, live_start⟩
      exact List.forall_mem_nil _
  | none =>
      obtain ⟨later, rfl, later_start, dropped⟩ := leads.split
      have pending := List.findSome?_eq_none_iff.mp accepted
      have whole : front.takeWhile (·.accepted?.isNone) = front := takeWhile_of_pending pending
      have best_eq : bestAt position (front ++ later) free = bestAt position later free := by
        rw [bestAt, List.findSome?_append, accepted, Option.none_or, bestAt]
      rw [bestAt_of_pending pending, best_eq]
      refine ⟨?_, ?_, live_start⟩
      · rcases agree with ⟨stop, rfl, rfl⟩ | ⟨rfl, free_later⟩
        · rw [dropped rfl]
          exact .inl ⟨stop, rfl, rfl⟩
        · refine .inr ⟨rfl, fun answer found => ?_⟩
          rw [bestAt] at found
          split at found
          · next start reached =>
              cases found
              obtain ⟨thread, member, accepts⟩ := List.exists_of_findSome?_eq_some reached
              exact Thread.start_of_accepted accepts ▸ later_start thread member
          · exact free_later answer found
      · refine ⟨later.takeWhile (·.accepted?.isNone), ?_, ?_, ?_⟩
        · rw [List.takeWhile_append_of_pos (fun thread member => by simp [pending thread member]),
            whole]
        · exact fun thread live => later_start thread (List.takeWhile_subset _ live)
        · intro found
          rw [dropped found]
          rfl

/-- Both searches read a character and go on side by side, and the free search may begin a match of
its own. -/
theorem Leads.step {pattern : Pattern} (leads : Leads anchored.isSome front all)
    (agree : Agree anchored free) (position : Nat) (c : Char) (after : Option Char) :
    Leads anchored.isSome
      (threadsAt ⟨pattern, true⟩ (position + 1) (some c) after anchored
        (front.foldl (advance c after) .start))
      (threadsAt ⟨pattern, false⟩ (position + 1) (some c) after free
        (all.foldl (advance c after) .start)) := by
  obtain ⟨later, rfl, later_start, dropped⟩ := leads.split
  have front_grows := grows_foldl_advance (· = 0) c after leads.front_start .start
  have front_start : ∀ thread ∈ (front.foldl (advance c after) .start).threads,
      thread.start = 0 := by
    obtain ⟨_, threads_eq, start_eq⟩ := front_grows.threads_eq
    rw [threads_eq]
    exact start_eq
  rw [threadsAt_anchored, List.foldl_append]
  refine ⟨?_, front_start⟩
  rcases agree with ⟨stop, rfl, rfl⟩ | ⟨rfl, _⟩
  · rw [dropped rfl]
    exact ⟨[], (List.append_nil _).symm, List.forall_mem_nil _, fun _ => rfl⟩
  · have later_grows := grows_foldl_advance (0 < ·) c after later_start
      (front.foldl (advance c after) .start)
    have new_grows := grows_exploreAll (0 < ·) (Nat.succ_pos position) (some c) after [pattern]
      (later.foldl (advance c after) (front.foldl (advance c after) .start))
    rw [threadsAt]
    split
    · obtain ⟨behind, threads_eq, behind_start⟩ := (later_grows.trans new_grows).threads_eq
      exact ⟨behind, threads_eq, behind_start, fun found => by cases found⟩
    · obtain ⟨behind, threads_eq, behind_start⟩ := later_grows.threads_eq
      exact ⟨behind, threads_eq, behind_start, fun found => by cases found⟩

end Search

end Pattern
end MmlScan
