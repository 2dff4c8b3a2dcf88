import MmlScan.Proofs.Termination

/-!
# Entering and leaving are brackets

An operation is followed through every moment at which it changes the stack of expansions.  A
change adds one frame, or takes off the innermost one, or leaves the frames alone, so what has been
on the stack at some moment stays below as long as the stack does not get as low again.  The change
that first brings it back there leaves the frame that was pushed, and reading goes on where its
macro was entered.
-/

namespace MmlScan

namespace Scanner

/-! ## Changes of the stack -/

/-- A change of a scanner that does at most one thing to its stack.  `resets` tells whether going
back to the source, which throws the stack away, is among the changes. -/
inductive Change (resets : Prop) : Scanner → Scanner → Prop
  | stay {before after : Scanner} (expansions_eq : after.expansions = before.expansions) :
      Change resets before after
  | enter {before inner : Scanner} {key replacement : Text}
      (begun : before.enter? key replacement = some inner) : Change resets before inner
  | leave {before outer : Scanner} (left : before.exit? = some outer) : Change resets before outer
  | reset {before : Scanner} (allowed : resets) (offset : Nat) :
      Change resets before (before.resetToSource offset)

/-- Changes, one after the other, lead through the moments listed to the last of them. -/
inductive Course (resets : Prop) : Scanner → List Scanner → Scanner → Prop
  | nil (scanner : Scanner) : Course resets scanner [] scanner
  | cons {before next last : Scanner} {moments : List Scanner} (change : Change resets before next)
      (later : Course resets next moments last) : Course resets before (next :: moments) last

namespace Course

variable {resets allowed : Prop} {first second third : Scanner} {front back : List Scanner}

theorem single (change : Change resets first second) : Course resets first [second] second :=
  .cons change (.nil second)

theorem append (left : Course resets first front second) (right : Course resets second back third) :
    Course resets first (front ++ back) third := by
  induction left with
  | nil => exact right
  | cons change _ ih => exact .cons change (ih right)

theorem mono (implied : resets → allowed) (course : Course resets first front second) :
    Course allowed first front second := by
  induction course with
  | nil scanner => exact .nil scanner
  | cons change _ ih =>
      refine .cons ?_ ih
      cases change with
      | stay expansions_eq => exact .stay expansions_eq
      | enter begun => exact .enter begun
      | leave left => exact .leave left
      | reset resetting offset => exact .reset (implied resetting) offset

theorem getLast (course : Course resets first front second) :
    (first :: front).getLast? = some second := by
  induction course with
  | nil => rfl
  | cons change _ ih => rw [List.getLast?_cons_cons, ih]

/-- A course leads to each of its moments by a change from the one before. -/
theorem change_of_append {moment : Scanner}
    (course : Course resets first (front ++ moment :: back) third) :
    ∃ previous, Course resets first front previous ∧ Change resets previous moment := by
  induction front generalizing first with
  | nil =>
      cases course with
      | cons change _ => exact ⟨first, .nil first, change⟩
  | cons next front ih =>
      cases course with
      | cons change later =>
          obtain ⟨previous, earlier, last⟩ := ih later
          exact ⟨previous, .cons change earlier, last⟩

end Course

/-! ## What lies below stays -/

/-- As long as the stack is not lower than `stack`, it lies below. -/
theorem Change.stacked {resets : Prop} {before after : Scanner} {stack : List Expansion}
    (change : Change resets before after) (stacked : stack <:+ before.expansions.frames)
    (high : stack.length ≤ after.depth) : stack <:+ after.expansions.frames := by
  cases change with
  | stay expansions_eq => rwa [expansions_eq]
  | enter begun =>
      obtain ⟨_, _, _, _, _, frames_eq⟩ := enter_eq_some begun
      rw [frames_eq]
      exact stacked.trans (List.suffix_cons _ _)
  | leave left =>
      obtain ⟨frame, frames, shape, frames_eq, _⟩ := exit_eq_some left
      rw [depth, Expansions.depth, frames_eq] at high
      rw [shape] at stacked
      rw [frames_eq]
      rcases List.suffix_cons_iff.mp stacked with rfl | kept
      · rw [List.length_cons] at high
        omega
      · exact kept
  | reset _ offset =>
      have stack_nil : stack = [] := List.length_eq_zero_iff.mp (Nat.le_zero.mp high)
      rw [stack_nil]
      exact List.nil_suffix

theorem Course.stacked {resets : Prop} {first last : Scanner} {moments : List Scanner}
    {stack : List Expansion} (course : Course resets first moments last)
    (stacked : stack <:+ first.expansions.frames)
    (high : ∀ moment ∈ moments, stack.length ≤ moment.depth) :
    stack <:+ last.expansions.frames := by
  induction course with
  | nil => exact stacked
  | cons change _ ih =>
      obtain ⟨next_high, later_high⟩ := List.forall_mem_cons.mp high
      exact ih (change.stacked stacked next_high) later_high

/-- A change that brings the stack below a frame leaves the expansion of this frame. -/
theorem Change.leaves {before after : Scanner} {frame : Expansion} {frames : List Expansion}
    (change : Change False before after) (stacked : frame :: frames <:+ before.expansions.frames)
    (low : after.depth ≤ frames.length) :
    before.exit? = some after ∧ after.expansions.frames = frames ∧
      after.view = frame.enclosing.reposition frame.resume := by
  have length_le := stacked.length_le
  rw [List.length_cons] at length_le
  cases change with
  | stay expansions_eq =>
      rw [depth, Expansions.depth, expansions_eq] at low
      omega
  | enter begun =>
      obtain ⟨_, _, _, _, _, frames_eq⟩ := enter_eq_some begun
      rw [depth, Expansions.depth, frames_eq, List.length_cons] at low
      omega
  | leave left =>
      obtain ⟨innermost, others, shape, frames_eq, view_eq, _⟩ := exit_eq_some left
      rw [depth, Expansions.depth, frames_eq] at low
      rw [shape] at stacked
      rcases List.suffix_cons_iff.mp stacked with same | kept
      · cases same
        exact ⟨left, frames_eq, view_eq⟩
      · have longer := kept.length_le
        rw [List.length_cons] at longer
        omega
  | reset allowed => exact allowed.elim

/-! ## The moments of an operation -/

/-- The moments of passing over blanks: each run of blanks that is taken, each expansion left. -/
def skipMoments (scanner : Scanner) : List Scanner :=
  let after := scanner.skipBlanks.2
  if after.isExhausted then
    match _ : after.exit? with
    | some outer => after :: outer :: skipMoments outer
    | none => [after]
  else
    [after]
termination_by scanner.depth
decreasing_by exact depth_exit ‹_›

/-- The moments of expanding: each macro entered. -/
def expandMoments (scanner : Scanner) : List Scanner :=
  match _ : scanner.macros.longestMatch? scanner.rest with
  | none => []
  | some definition =>
      match _ : scanner.enter? definition.key definition.replacement with
      | none => []
      | some inner => inner :: expandMoments inner
termination_by scanner.idleKeys
decreasing_by
  exact idleKeys_enter (List.mem_map_of_mem (MacroTable.mem_of_longestMatch ‹_›)) ‹_›

/-- The moments of going to the next token. -/
def reachMoments (scanner : Scanner) : List Scanner :=
  let expanded := scanner.skip.2.expand
  scanner.skipMoments ++ scanner.skip.2.expandMoments ++
    match expanded.1 with
    | .error _ => []
    | .ok _ => expanded.2.skipMoments

/-- The moments of a round; taking a directive or a token is one moment. -/
def roundMoments (scanner : Scanner) : List Scanner :=
  scanner.reachMoments ++ [scanner.round.scanner]

/-- The moments of a scan. -/
def scanMoments (scanner : Scanner) : List Scanner :=
  scanner.roundMoments ++
    match _ : scanner.round with
    | .advanced _ after => scanMoments after
    | .failed _ _ => []
    | .finished _ => []
termination_by scanner
decreasing_by exact ⟨_, ‹_›⟩

/-- The moments of scanning twice; going back to the source is one of them. -/
def scanTwiceMoments (scanner : Scanner) : List Scanner :=
  scanner.scanMoments ++
    match scanner.scanTokens with
    | (.error _, _) => []
    | (.ok _, between) => between.resetToSource 0 :: (between.resetToSource 0).scanMoments

/-- The moments of an operation.  One that changes the stack at most once is a moment itself. -/
def Operation.moments : Operation → Scanner → List Scanner
  | .expand, scanner => scanner.expandMoments
  | .skip, scanner => scanner.skipMoments
  | .reachToken, scanner => scanner.reachMoments
  | .scanTokens, scanner => scanner.scanMoments
  | .scanTwice, scanner => scanner.scanTwiceMoments
  | operation, scanner => [operation.run scanner]

/-- The moments of operations, one after the other. -/
def Operation.momentsAll : List Operation → Scanner → List Scanner
  | [], _ => []
  | operation :: operations, scanner =>
      operation.moments scanner ++ momentsAll operations (operation.run scanner)

/-- The operation goes back to the source. -/
def Operation.Resets : Operation → Prop
  | .resetToSource _ | .drain | .scanTwice => True
  | _ => False

/-! ## Moments are joined by changes -/

section Courses

variable {resets : Prop}

theorem course_skip (skipped : Bool) (scanner : Scanner) :
    Course resets scanner scanner.skipMoments (skipFrom skipped scanner).2 := by
  have blanks (scanner : Scanner) : Change resets scanner scanner.skipBlanks.2 := .stay rfl
  fun_induction skipMoments scanner generalizing skipped with
  | case1 scanner after exhausted outer left ih =>
      rw [skipFrom_of_leave skipped exhausted left]
      exact .cons (blanks scanner) (.cons (.leave left) (ih _))
  | case2 scanner after exhausted outside =>
      rw [skipFrom_of_stay skipped fun _ => outside]
      exact .single (blanks scanner)
  | case3 scanner after remains =>
      rw [skipFrom_of_stay skipped fun exhausted => absurd exhausted remains]
      exact .single (blanks scanner)

theorem course_expand (entered : Nat) (scanner : Scanner) :
    Course resets scanner scanner.expandMoments (expandFrom entered scanner).2 := by
  fun_induction expandMoments scanner generalizing entered with
  | case1 scanner notFound =>
      rw [expandFrom_of_notFound entered notFound]
      exact .nil scanner
  | case2 scanner definition found refused =>
      rw [expandFrom_of_refused entered found refused]
      exact .nil scanner
  | case3 scanner definition found inner begun ih =>
      rw [expandFrom_of_begun entered found begun]
      exact .cons (.enter begun) (ih _)

theorem course_reach (scanner : Scanner) :
    Course resets scanner scanner.reachMoments scanner.reachToken.2 := by
  have skipped : Course resets scanner scanner.skipMoments scanner.skip.2 :=
    course_skip false scanner
  have expanded := skipped.append (course_expand 0 scanner.skip.2)
  rw [reachMoments, reachToken]
  rcases expansion : scanner.skip.2.expand with ⟨answer, after⟩
  rw [show (expandFrom 0 scanner.skip.2).2 = after from congrArg Prod.snd expansion] at expanded
  cases answer with
  | error cycle => simpa using expanded
  | ok count => exact expanded.append (course_skip false after)

theorem expansions_readString (scanner : Scanner) :
    scanner.readString.2.expansions = scanner.expansions := by
  rw [readString]
  split
  · split <;> rfl
  · rfl

theorem expansions_readDirective (scanner : Scanner) :
    scanner.readDirective.2.expansions = scanner.expansions := by
  have string := expansions_readString scanner
  rw [readDirective]
  split
  · next read => rwa [read] at string
  · next read => rwa [read] at string
  · next body after read =>
      rw [read] at string
      split <;> exact string

theorem expansions_trim (scanner : Scanner) (pattern : Text) (ignoreCase : Bool) :
    (scanner.trim pattern ignoreCase).2.expansions = scanner.expansions := by
  rw [trim]
  split <;> rfl

theorem expansions_trimUntil (scanner : Scanner) (pattern : Text) (ignoreCase : Bool) :
    (scanner.trimUntil pattern ignoreCase).2.expansions = scanner.expansions := by
  rw [trimUntil]
  split <;> rfl

theorem expansions_readNumber (scanner : Scanner) (kind : NumberKind) :
    (scanner.readNumber kind).2.expansions = scanner.expansions := by
  rw [readNumber_snd, expansions_trim]

theorem expansions_takeToken (scanner : Scanner) :
    scanner.takeToken.scanner.expansions = scanner.expansions := by
  have trimmed := expansions_trim scanner Token.pattern false
  rw [takeToken]
  split <;>
    next taken =>
      rw [taken] at trimmed
      exact trimmed

/-- Behind the gate a round does not change the stack. -/
theorem expansions_round (scanner : Scanner) :
    scanner.round.scanner.expansions = scanner.reachToken.2.expansions := by
  have read := expansions_readDirective scanner.reachToken.2
  rcases round_cases scanner with ⟨ended, _⟩ | ⟨ended, _⟩ | ended
  · rw [ended]
  · rw [ended, read]
  · rw [ended, expansions_takeToken, read]

theorem course_round (scanner : Scanner) :
    Course resets scanner scanner.roundMoments scanner.round.scanner :=
  (course_reach scanner).append (.single (.stay (expansions_round scanner)))

theorem scanMoments_eq (scanner : Scanner) :
    scanner.scanMoments =
      scanner.roundMoments ++
        match scanner.round with
        | .advanced _ after => after.scanMoments
        | .failed _ _ => []
        | .finished _ => [] := by
  rw [scanMoments.eq_def]
  split <;> next ended => rw [ended]

theorem course_scan (taken : List Token) (scanner : Scanner) :
    Course resets scanner scanner.scanMoments (scanFrom taken scanner).2 := by
  have round (scanner : Scanner) :
      Course resets scanner scanner.roundMoments scanner.round.scanner :=
    course_round scanner
  fun_induction scanFrom taken scanner with
  | case1 taken scanner diagnostic after ended =>
      have last := round scanner
      rw [ended] at last
      rw [scanMoments_eq, ended, List.append_nil]
      exact last
  | case2 taken scanner after ended =>
      have last := round scanner
      rw [ended] at last
      rw [scanMoments_eq, ended, List.append_nil]
      exact last
  | case3 taken scanner token after ended ih =>
      have first := round scanner
      rw [ended] at first
      rw [scanMoments_eq, ended]
      exact first.append ih

theorem course_scanTwice (scanner : Scanner) (allowed : resets) :
    Course resets scanner scanner.scanTwiceMoments scanner.scanTwice.2 := by
  have first : Course resets scanner scanner.scanMoments scanner.scanTokens.2 :=
    course_scan [] scanner
  rw [scanTwiceMoments, scanTwice]
  rcases scanned : scanner.scanTokens with ⟨answer, between⟩
  rw [scanned] at first
  cases answer with
  | error diagnostic => simpa using first
  | ok tokens =>
      have second : Course resets between
          (between.resetToSource 0 :: (between.resetToSource 0).scanMoments)
          (between.resetToSource 0).scanTokens.2 :=
        .cons (.reset allowed 0) (course_scan [] _)
      dsimp only
      split
      · next rescanned =>
          rw [rescanned] at second
          exact first.append second
      · next rescanned =>
          rw [rescanned] at second
          exact first.append second

end Courses

/-- An operation goes through its moments. -/
theorem Operation.course (operation : Operation) (scanner : Scanner) :
    Course operation.Resets scanner (operation.moments scanner) (operation.run scanner) := by
  cases operation with
  | expand => exact course_expand 0 scanner
  | skip => exact course_skip false scanner
  | reachToken => exact course_reach scanner
  | scanTokens => exact course_scan [] scanner
  | scanTwice => exact course_scanTwice scanner trivial
  | enter key replacement =>
      refine .single ?_
      rw [run]
      cases begun : scanner.enter? key replacement with
      | none => exact .stay rfl
      | some inner => exact .enter begun
  | exit =>
      refine .single ?_
      rw [run]
      cases left : scanner.exit? with
      | none => exact .stay rfl
      | some outer => exact .leave left
  | resetToSource offset => exact .single (.reset trivial offset)
  | drain => exact .single (.reset trivial _)
  | trim pattern ignoreCase => exact .single (.stay (expansions_trim scanner pattern ignoreCase))
  | trimUntil pattern ignoreCase =>
      exact .single (.stay (expansions_trimUntil scanner pattern ignoreCase))
  | readWord word => exact .single (.stay (expansions_trim scanner (Pattern.escape word) true))
  | readNumber kind => exact .single (.stay (expansions_readNumber scanner kind))
  | readIdentifier => exact .single (.stay (expansions_trim scanner identifierPattern false))
  | readString => exact .single (.stay (expansions_readString scanner))
  | readDirective => exact .single (.stay (expansions_readDirective scanner))
  | trimChar | undo | reposition | seek | define | share => exact .single (.stay rfl)

theorem Operation.courseAll {operations : List Operation} {resets : Prop}
    (implied : ∀ operation ∈ operations, operation.Resets → resets) (scanner : Scanner) :
    Course resets scanner (momentsAll operations scanner) (runAll operations scanner) := by
  induction operations generalizing scanner with
  | nil => exact .nil scanner
  | cons operation operations ih =>
      obtain ⟨first, later⟩ := List.forall_mem_cons.mp implied
      exact ((operation.course scanner).mono first).append (ih later _)

/-! ## Brackets -/

/-- A scanner is back where a macro was entered: it reads the same buffer behind the key, inside the
same expansions, and there is nothing to undo. -/
structure BackFrom (outside : Scanner) (key : Text) (restored : Scanner) : Prop where
  expansions_eq : restored.expansions = outside.expansions
  buffer_eq : restored.buffer = outside.buffer
  /-- The cursor is cut off at the end of the buffer, or in front of a character. -/
  offset_eq : restored.offset =
    Text.size (Text.splitAt outside.buffer (outside.offset + Text.size key)).1
  undo_eq : restored.undo = restored

theorem backFrom_of_view {outside restored : Scanner} {key : Text}
    (frames_eq : restored.expansions.frames = outside.expansions.frames)
    (view_eq : restored.view = outside.view.reposition (outside.offset + Text.size key)) :
    BackFrom outside key restored where
  expansions_eq := Expansions.eq_of_frames frames_eq
  buffer_eq := by rw [buffer, buffer, view_eq, View.buffer_reposition]
  offset_eq := by
    rw [offset, view_eq, View.reposition, View.moveTo_eq]
    rfl
  undo_eq := by
    have undone : restored.view.undo = restored.view := by
      rw [view_eq]
      exact View.moveTo_offset _
    rw [undo, undone]
    rfl

/-- Whatever is done inside a macro that was entered, the change that first brings the stack back to
its height leaves the expansion of this macro and restores what was around it.  A macro that is
refused changes nothing. -/
theorem leaving_undoes_entering (scanner : Scanner) (key replacement : Text) :
    (∀ inner operations inside restored later,
      scanner.enter? key replacement = some inner →
      (∀ operation ∈ operations, ¬ operation.Resets) →
      Operation.momentsAll operations inner = inside ++ restored :: later →
      (∀ moment ∈ inside, scanner.depth < moment.depth) → restored.depth ≤ scanner.depth →
        (∃ last ∈ (inner :: inside).getLast?, last.exit? = some restored) ∧
        BackFrom scanner key restored) ∧
    (scanner.enter? key replacement = none →
      (Operation.enter key replacement).run scanner = scanner) := by
  constructor
  · intro inner operations inside restored later entered nests moments_eq deep low
    obtain ⟨_, _, _, _, _, frames_eq⟩ := enter_eq_some entered
    have course : Course False inner (Operation.momentsAll operations inner)
        (Operation.runAll operations inner) :=
      Operation.courseAll (fun operation member resets => nests operation member resets) inner
    rw [moments_eq] at course
    obtain ⟨last, course, change⟩ := course.change_of_append
    have stacked : inner.expansions.frames <:+ last.expansions.frames :=
      course.stacked List.suffix_rfl (by rw [frames_eq]; exact deep)
    rw [frames_eq] at stacked
    obtain ⟨left, restored_frames, view_eq⟩ := change.leaves stacked low
    exact ⟨⟨last, course.getLast, left⟩, backFrom_of_view restored_frames view_eq⟩
  · intro refused
    rw [Operation.run, refused]
    rfl

/-- A macro that is expanded inside another one. -/
def aroundNested : Scanner :=
  (ofText "Ac;".toList).define ['B'] ['b']

/-- The outer macro has been entered. -/
def insideNested : Scanner :=
  (Operation.enter ['A'] ['B', ' ']).run aroundNested

/-- The outer macro is redefined while its text is read to the end. -/
def nestedOperations : List Operation :=
  [.define ['A'] ['z'], .expand, .trimChar 'b', .skip]

theorem leaving_undoes_entering_nested :
    ∃ inside restored later,
      aroundNested.enter? ['A'] ['B', ' '] = some insideNested ∧
      (∀ operation ∈ nestedOperations, ¬ operation.Resets) ∧
      Operation.momentsAll nestedOperations insideNested = inside ++ restored :: later ∧
      inside.map (·.depth) = [1, 2, 2, 2, 1, 1] ∧ restored.depth ≤ aroundNested.depth ∧
      BackFrom aroundNested ['A'] restored ∧ restored.rest = ['c', ';'] := by
  have entered : aroundNested.enter? ['A'] ['B', ' '] = some insideNested := by decide +kernel
  have nests : ∀ operation ∈ nestedOperations, ¬ operation.Resets := by
    simp [nestedOperations, Operation.Resets]
  let moments := Operation.momentsAll nestedOperations insideNested
  let restored := moments.getD 6 insideNested
  have split : moments = moments.take 6 ++ restored :: moments.drop 7 := by decide +kernel
  have depths : (moments.take 6).map (·.depth) = [1, 2, 2, 2, 1, 1] := by decide +kernel
  have deep : ∀ moment ∈ moments.take 6, aroundNested.depth < moment.depth := by decide +kernel
  have low : restored.depth ≤ aroundNested.depth := by decide +kernel
  have rest_eq : restored.rest = ['c', ';'] := by decide +kernel
  have brackets := (leaving_undoes_entering aroundNested ['A'] ['B', ' ']).1 insideNested
    nestedOperations _ _ _ entered nests split deep low
  exact ⟨_, _, _, entered, nests, split, depths, low, brackets.2, rest_eq⟩

end Scanner
end MmlScan
