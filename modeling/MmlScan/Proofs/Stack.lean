import MmlScan.Proofs.Operation
import Mathlib.Data.List.Infix
import Mathlib.Data.List.Nodup

/-!
# The stack of expansions

Whatever is asked of a scanner, its stack stays sound: no key is on it twice, the source lies below
it, and leaving every expansion ends in the source.

A macro that is expanded at the cursor is pushed with the place right behind its key.  A macro that
is entered on demand may be pushed with any place, so a frame that does not stand behind its key
can only come from such a call, and must have been on the stack ever since.
-/

namespace MmlScan

/-- Reading goes on right behind the key. -/
def Expansion.ShowsKey (frame : Expansion) : Prop :=
  ∃ start, frame.enclosing.buffer.HasAt start frame.key ∧
    frame.resume = start + Text.size frame.key

namespace Scanner

/-! ## Leaving every expansion -/

/-- Leaves a number of expansions, the innermost first. -/
def exits? : Nat → Scanner → Option Scanner
  | 0, scanner => some scanner
  | count + 1, scanner => scanner.exit?.bind (exits? count)

theorem Grounded.exits {scanner : Scanner} {frames : List Expansion} (grounded : scanner.Grounded)
    (frames_eq : scanner.expansions.frames = frames) :
    ∃ outer, scanner.exits? frames.length = some outer ∧ outer.buffer = scanner.source ∧
      outer.depth = 0 := by
  induction frames generalizing scanner with
  | nil =>
      rw [Grounded, frames_eq] at grounded
      exact ⟨scanner, rfl, grounded, List.length_eq_zero_iff.mpr frames_eq⟩
  | cons frame frames ih =>
      cases left : scanner.exit? with
      | none =>
          have outside := exit_eq_none_iff.mp left
          rw [depth, Expansions.depth, frames_eq] at outside
          cases outside
      | some outer =>
          obtain ⟨_, _, shape, outer_frames, _, source_eq, _⟩ := exit_eq_some left
          cases frames_eq.symm.trans shape
          have move : Move scanner outer := .leave left
          obtain ⟨last, exits, last_buffer, outside⟩ := ih (move.grounded grounded) outer_frames
          refine ⟨last, ?_, last_buffer.trans source_eq, outside⟩
          rw [List.length_cons, exits?, left]
          exact exits

theorem bottom_of_getLast {frames : List Expansion} {outermost : Expansion} (buffer : Text)
    (last : frames.getLast? = some outermost) :
    bottom buffer frames = outermost.enclosing.buffer := by
  induction frames generalizing buffer with
  | nil => cases last
  | cons frame frames ih =>
      cases frames with
      | nil =>
          cases last
          rfl
      | cons next frames =>
          rw [List.getLast?_cons_cons] at last
          exact ih frame.enclosing.buffer last

theorem enter_eq_none_iff {scanner : Scanner} {key replacement : Text} :
    scanner.enter? key replacement = none ↔ key ∈ scanner.expansions.keys := by
  rw [enter?, Option.map_eq_none_iff, Expansions.push?, Expansions.keys, List.mem_reverse,
    ← Expansions.isActive_iff]
  split <;> simp_all

/-! ## Where frames come from -/

theorem showsKey_of_rest {scanner : Scanner} {key : Text} (begins : key <+: scanner.rest) :
    Expansion.ShowsKey ⟨key, scanner.view, scanner.offset + Text.size key⟩ := by
  obtain ⟨behind, rest_eq⟩ := begins
  exact ⟨scanner.offset, scanner.view.hasAt_of_rest rest_eq.symm, rfl⟩

/-- A move pushes no frame that does not stand behind its key. -/
theorem Move.frames_kept {before after : Scanner} {frame : Expansion} {outer : List Expansion}
    (move : Move before after) (stacked : frame :: outer <:+ after.expansions.frames) :
    frame.ShowsKey ∨ frame :: outer <:+ before.expansions.frames := by
  cases move with
  | look | keep | define => exact .inr stacked
  | expand found begun =>
      obtain ⟨_, _, _, _, _, frames_eq⟩ := enter_eq_some begun
      rw [frames_eq] at stacked
      rcases List.suffix_cons_iff.mp stacked with pushed | kept
      · cases pushed
        exact .inl (showsKey_of_rest (MacroTable.append_of_longestMatch found))
      · exact .inr kept
  | leave left =>
      obtain ⟨left_frame, frames, shape, frames_eq, _⟩ := exit_eq_some left
      rw [frames_eq] at stacked
      rw [shape]
      exact .inr (stacked.trans (List.suffix_cons left_frame frames))
  | reset offset => exact absurd (List.suffix_nil.mp stacked) (List.cons_ne_nil _ _)

theorem Moves.frames_kept {before after : Scanner} {frame : Expansion} {outer : List Expansion}
    (moves : Moves before after) (stacked : frame :: outer <:+ after.expansions.frames) :
    frame.ShowsKey ∨ frame :: outer <:+ before.expansions.frames := by
  induction moves with
  | refl => exact .inr stacked
  | tail _ move ih =>
      rcases move.frames_kept stacked with shown | kept
      · exact .inl shown
      · exact ih kept

/-- The innermost of some frames was pushed by an operation that entered its macro on demand, where
the key was not at the cursor, and none of the frames has been left since. -/
def EnteredElsewhere (start : Scanner) (operations : List Operation) (stack : List Expansion) :
    Prop :=
  ∃ earlier key replacement later inner,
    operations = earlier ++ .enter key replacement :: later ∧
    (Operation.runAll earlier start).enter? key replacement = some inner ∧
    ¬ key <+: (Operation.runAll earlier start).rest ∧ inner.expansions.frames = stack ∧
    ∀ part, part <+: later → stack <:+ (Operation.runAll part inner).expansions.frames

theorem EnteredElsewhere.append {start : Scanner} {operations : List Operation}
    {stack : List Expansion} (entered : EnteredElsewhere start operations stack)
    (operation : Operation)
    (stays : stack <:+ (operation.run (Operation.runAll operations start)).expansions.frames) :
    EnteredElsewhere start (operations ++ [operation]) stack := by
  obtain ⟨earlier, key, replacement, later, inner, rfl, begun, elsewhere, pushed, kept⟩ := entered
  refine ⟨earlier, key, replacement, later ++ [operation], inner, ?_, begun, elsewhere, pushed,
    fun part front => ?_⟩
  · rw [List.append_assoc, List.cons_append]
  · rcases List.prefix_concat_iff.mp front with rfl | front
    · have inner_eq : (Operation.enter key replacement).run (Operation.runAll earlier start) =
          inner := by
        rw [Operation.run, begun]
        rfl
      rw [Operation.runAll_append] at stays ⊢
      rw [← inner_eq]
      exact stays
    · exact kept part front

theorem showsKey_or_enteredElsewhere {start : Scanner} (outside : start.expansions.frames = [])
    (operations : List Operation) {frame : Expansion} {outer : List Expansion}
    (stacked : frame :: outer <:+ (Operation.runAll operations start).expansions.frames) :
    frame.ShowsKey ∨ EnteredElsewhere start operations (frame :: outer) := by
  induction operations using List.reverseRecOn with
  | nil =>
      change frame :: outer <:+ start.expansions.frames at stacked
      rw [outside] at stacked
      exact absurd (List.suffix_nil.mp stacked) (List.cons_ne_nil _ _)
  | append_singleton operations operation ih =>
      rw [Operation.runAll_append] at stacked
      change frame :: outer <:+
        (operation.run (Operation.runAll operations start)).expansions.frames at stacked
      have extend (kept : frame :: outer <:+ (Operation.runAll operations start).expansions.frames) :
          frame.ShowsKey ∨ EnteredElsewhere start (operations ++ [operation]) (frame :: outer) :=
        (ih kept).imp_right fun entered => entered.append operation stacked
      rcases operation.moves_or_enters (Operation.runAll operations start) with
        moves | ⟨key, replacement, rfl, begun⟩
      · rcases moves.frames_kept stacked with shown | kept
        · exact .inl shown
        · exact extend kept
      · obtain ⟨_, _, _, _, _, frames_eq⟩ := enter_eq_some begun
        rcases List.suffix_cons_iff.mp (frames_eq ▸ stacked) with pushed | kept
        · by_cases begins : key <+: (Operation.runAll operations start).rest
          · cases pushed
            exact .inl (showsKey_of_rest begins)
          · refine .inr ⟨operations, key, replacement, [], _, rfl, begun, begins,
              frames_eq.trans pushed.symm, fun part front => ?_⟩
            rw [List.prefix_nil.mp front]
            exact stacked
        · exact extend kept

/-! ## Whole runs -/

/-- The stack that operations leave, from a scanner outside all expansions. -/
structure StackSound (start : Scanner) (operations : List Operation) (scanner : Scanner) : Prop where
  /-- The source is never changed. -/
  source_eq : scanner.source = start.source
  /-- No key is being expanded twice. -/
  distinct : scanner.expansions.keys.Nodup
  /-- An active key is refused, and no other. -/
  refuses : ∀ key replacement,
    scanner.enter? key replacement = none ↔ key ∈ scanner.expansions.keys
  /-- Outside all expansions the source is read. -/
  outside : scanner.depth = 0 → scanner.buffer = scanner.source
  /-- The outermost expansion is one of the source. -/
  outermost : ∀ frame ∈ scanner.expansions.frames.getLast?,
    frame.enclosing.buffer = scanner.source
  /-- Leaving as many expansions as there are ends in the source, where there is none to leave. -/
  unwinds : ∃ outer, scanner.exits? scanner.depth = some outer ∧ outer.buffer = scanner.source ∧
    outer.exit? = none
  /-- Reading goes on right behind the key of every frame, but for those that were entered on demand
  where their key was not at the cursor. -/
  shows_key : ∀ frame outer, frame :: outer <:+ scanner.expansions.frames →
    frame.ShowsKey ∨ EnteredElsewhere start operations (frame :: outer)

/-- Every sequence of operations on a fresh scanner leaves a sound stack. -/
theorem stackSound_runAll (text : Text) (patterns : PatternCache) (operations : List Operation) :
    StackSound (withPatterns text patterns) operations
      (Operation.runAll operations (withPatterns text patterns)) := by
  have reachable : (Operation.runAll operations (withPatterns text patterns)).Reachable :=
    (Reachable.fresh text patterns).runAll operations
  have grounded := reachable.grounded
  refine ⟨?_, ?_, fun _ _ => enter_eq_none_iff, reachable.buffer_eq_source, fun frame last => ?_,
    ?_, fun _ _ => showsKey_or_enteredElsewhere rfl operations⟩
  · exact Operation.source_runAll operations _
  · exact List.nodup_reverse.mpr (Expansions.distinct _)
  · exact (bottom_of_getLast _ last).symm.trans grounded
  · obtain ⟨outer, exits, buffer_eq, outside⟩ := grounded.exits rfl
    exact ⟨outer, exits, buffer_eq, exit_eq_none_iff.mpr outside⟩

end Scanner
end MmlScan
