import MmlScan.Command.Run
import MmlScan.Proofs.Bracket
import MmlScan.Proofs.FailedReads
import MmlScan.Proofs.RoundTrip

/-!
# Clean keys

A table takes any key, but keys come into it by directives and by the command line only, and these
trim what stands in front of the first equals sign and refuse what is empty then.  So throughout a
scan every key is clean.  A clean key begins with content: entering it passes over some of the
buffer, and it is never found within blanks.
-/

namespace MmlScan

/-- The key of an expansion stands at the cursor of the buffer around it, and reading goes on right
behind the key. -/
structure Expansion.PassesKey (frame : Expansion) : Prop where
  rest_eq : frame.enclosing.rest = frame.key ++ frame.pending
  resume_eq : frame.resume = frame.enclosing.offset + Text.size frame.key

theorem Text.IsHygienic.not_begins {key text : Text} (hygienic : key.IsHygienic)
    (blank : text.BlankLed) : ¬ key <+: text := by
  rintro ⟨behind, rfl⟩
  exact hygienic.front ((blankLed_append hygienic.ne_nil behind).mp blank)

theorem Text.IsHygienic.size_pos {key : Text} (hygienic : key.IsHygienic) : 0 < Text.size key :=
  Nat.pos_of_ne_zero fun empty => hygienic.ne_nil (size_eq_zero_iff.mp empty)

theorem Expansion.PassesKey.bounds {frame : Expansion} (passes : frame.PassesKey)
    (clean : frame.key.IsHygienic) :
    frame.enclosing.offset < frame.resume ∧
      frame.enclosing.buffer.IsBoundary frame.resume := by
  have positive := clean.size_pos
  rw [passes.resume_eq]
  refine ⟨by omega, frame.enclosing.past.reverse ++ frame.key, frame.pending, ?_, ?_⟩
  · rw [List.append_assoc, ← passes.rest_eq]
    rfl
  · rw [Text.size_append, Text.size_reverse, ← frame.enclosing.offset_eq]

namespace Scanner

/-- Every key that is defined or being expanded is clean, and expansions pass over their keys. -/
structure Hygienic (scanner : Scanner) : Prop where
  defined : ∀ key ∈ scanner.macros.keys, key.IsHygienic
  active : ∀ frame ∈ scanner.expansions.frames, frame.key.IsHygienic ∧ frame.PassesKey

namespace Hygienic

variable {scanner after inner outer : Scanner}

/-! ## Single changes -/

theorem of_kept (hygienic : scanner.Hygienic) (macros_eq : after.macros = scanner.macros)
    (frames_kept : after.expansions.frames ⊆ scanner.expansions.frames) : after.Hygienic where
  defined := macros_eq ▸ hygienic.defined
  active frame member := hygienic.active frame (frames_kept member)

theorem of_moved (hygienic : scanner.Hygienic) (moved : scanner.OnlyMoved after) :
    after.Hygienic :=
  hygienic.of_kept moved.macros_eq (by rw [moved.expansions_eq]; exact List.Subset.refl _)

theorem define {key : Text} (hygienic : scanner.Hygienic) (clean : key.IsHygienic)
    (replacement : Text) : (scanner.define key replacement).Hygienic where
  defined other found := by
    obtain ⟨definition, member, rfl⟩ := List.mem_map.mp found
    rcases MacroDefinition.mem_insert member with rfl | older
    · exact clean
    · exact hygienic.defined _ (List.mem_map_of_mem older)
  active := hygienic.active

theorem enter {definition : MacroDefinition} (hygienic : scanner.Hygienic)
    (found : scanner.macros.longestMatch? scanner.rest = some definition)
    (begun : scanner.enter? definition.key definition.replacement = some inner) :
    inner.Hygienic := by
  obtain ⟨behind, rest_eq⟩ := MacroTable.append_of_longestMatch found
  obtain ⟨_, _, macros_eq, _, _, frames_eq⟩ := enter_eq_some begun
  have clean := hygienic.defined definition.key
    (List.mem_map_of_mem (MacroTable.mem_of_longestMatch found))
  constructor
  · rw [macros_eq]
    exact hygienic.defined
  · rw [frames_eq]
    refine List.forall_mem_cons.mpr ⟨⟨clean, ?_, rfl⟩, hygienic.active⟩
    rw [pending_of_rest rest_eq.symm]
    exact rest_eq.symm

theorem exit (hygienic : scanner.Hygienic) (left : scanner.exit? = some outer) :
    outer.Hygienic := by
  obtain ⟨frame, frames, shape, frames_eq, _, _, macros_eq, _⟩ := exit_eq_some left
  apply hygienic.of_kept macros_eq
  rw [shape, frames_eq]
  exact List.subset_cons_self frame frames

/-- A directive defines a clean key or none, whether it succeeds or fails. -/
theorem readDirective (hygienic : scanner.Hygienic) : scanner.readDirective.2.Hygienic := by
  have moved := hygienic.of_moved (onlyMoved_readString scanner)
  rw [Scanner.readDirective]
  split
  · next read => rwa [read] at moved
  · next read => rwa [read] at moved
  · next body stopped read =>
      rw [read] at moved
      split
      · next key replacement parts =>
          exact moved.define (Directive.split_eq_ok_iff.mp parts).1 replacement
      · exact moved

theorem takeToken (hygienic : scanner.Hygienic) : scanner.takeToken.scanner.Hygienic := by
  rw [Scanner.takeToken]
  split
  · next failure =>
      rw [trim_eq_error failure]
      exact hygienic
  · next trimmed => exact hygienic.of_moved (onlyMoved_of_trim trimmed)
  · next trimmed => exact hygienic.of_moved (onlyMoved_of_trim trimmed)

theorem resetToSource (hygienic : scanner.Hygienic) (offset : Nat) :
    (scanner.resetToSource offset).Hygienic :=
  hygienic.of_kept rfl (List.nil_subset _)

end Hygienic

/-! ## Moments -/

/-- What holds at first and at every moment holds at last. -/
theorem Course.last {resets : Prop} {property : Scanner → Prop} {first last : Scanner}
    {moments : List Scanner} (course : Course resets first moments last)
    (initially : property first) (throughout : ∀ moment ∈ moments, property moment) :
    property last := by
  rcases List.mem_cons.mp (List.mem_of_getLast? course.getLast) with same | member
  · rw [same]
    exact initially
  · exact throughout last member

namespace Hygienic

variable {scanner : Scanner}

theorem of_mem_skipMoments (hygienic : scanner.Hygienic) :
    ∀ moment ∈ scanner.skipMoments, moment.Hygienic := by
  have blanks {scanner : Scanner} (hygienic : scanner.Hygienic) : scanner.skipBlanks.2.Hygienic :=
    hygienic.of_kept rfl (List.Subset.refl _)
  fun_induction skipMoments scanner with
  | case1 scanner after exhausted outer left ih =>
      have outside := (blanks hygienic).exit left
      exact List.forall_mem_cons.mpr
        ⟨blanks hygienic, List.forall_mem_cons.mpr ⟨outside, ih outside⟩⟩
  | case2 scanner after exhausted outside =>
      exact List.forall_mem_singleton.mpr (blanks hygienic)
  | case3 scanner after remains => exact List.forall_mem_singleton.mpr (blanks hygienic)

theorem skip (hygienic : scanner.Hygienic) : scanner.skip.2.Hygienic := by
  have course : Course False scanner scanner.skipMoments scanner.skip.2 := course_skip false scanner
  exact course.last hygienic hygienic.of_mem_skipMoments

theorem of_mem_expandMoments (hygienic : scanner.Hygienic) :
    ∀ moment ∈ scanner.expandMoments, moment.Hygienic := by
  fun_induction expandMoments scanner with
  | case1 => exact List.forall_mem_nil _
  | case2 => exact List.forall_mem_nil _
  | case3 scanner definition found inner begun ih =>
      have inside := hygienic.enter found begun
      exact List.forall_mem_cons.mpr ⟨inside, ih inside⟩

theorem expand (hygienic : scanner.Hygienic) : scanner.expand.2.Hygienic := by
  have course : Course False scanner scanner.expandMoments scanner.expand.2 :=
    course_expand 0 scanner
  exact course.last hygienic hygienic.of_mem_expandMoments

theorem of_mem_reachMoments (hygienic : scanner.Hygienic) :
    ∀ moment ∈ scanner.reachMoments, moment.Hygienic := by
  rw [reachMoments, List.forall_mem_append, List.forall_mem_append]
  refine ⟨⟨hygienic.of_mem_skipMoments, hygienic.skip.of_mem_expandMoments⟩, ?_⟩
  split
  · exact List.forall_mem_nil _
  · exact hygienic.skip.expand.of_mem_skipMoments

theorem reachToken (hygienic : scanner.Hygienic) : scanner.reachToken.2.Hygienic := by
  have course : Course False scanner scanner.reachMoments scanner.reachToken.2 :=
    course_reach scanner
  exact course.last hygienic hygienic.of_mem_reachMoments

theorem round (hygienic : scanner.Hygienic) : scanner.round.scanner.Hygienic := by
  rcases round_cases scanner with ⟨ended, _⟩ | ⟨ended, _⟩ | ended
  · rw [ended]
    exact hygienic.reachToken
  · rw [ended]
    exact hygienic.reachToken.readDirective
  · rw [ended]
    exact hygienic.reachToken.readDirective.takeToken

theorem of_mem_roundMoments (hygienic : scanner.Hygienic) :
    ∀ moment ∈ scanner.roundMoments, moment.Hygienic := by
  rw [roundMoments, List.forall_mem_append, List.forall_mem_singleton]
  exact ⟨hygienic.of_mem_reachMoments, hygienic.round⟩

theorem of_mem_scanMoments (hygienic : scanner.Hygienic) :
    ∀ moment ∈ scanner.scanMoments, moment.Hygienic := by
  fun_induction scanFrom [] scanner with
  | case1 _ scanner diagnostic after ended =>
      rw [scanMoments_eq, ended, List.append_nil]
      exact hygienic.of_mem_roundMoments
  | case2 _ scanner after ended =>
      rw [scanMoments_eq, ended, List.append_nil]
      exact hygienic.of_mem_roundMoments
  | case3 _ scanner token after ended ih =>
      have next := hygienic.round
      rw [ended] at next
      rw [scanMoments_eq, ended, List.forall_mem_append]
      exact ⟨hygienic.of_mem_roundMoments, ih next⟩

theorem scanTokens (hygienic : scanner.Hygienic) : scanner.scanTokens.2.Hygienic := by
  have course : Course False scanner scanner.scanMoments scanner.scanTokens.2 :=
    course_scan [] scanner
  exact course.last hygienic hygienic.of_mem_scanMoments

theorem of_mem_scanTwiceMoments (hygienic : scanner.Hygienic) :
    ∀ moment ∈ scanner.scanTwiceMoments, moment.Hygienic := by
  have between := hygienic.scanTokens
  rw [scanTwiceMoments, List.forall_mem_append]
  refine ⟨hygienic.of_mem_scanMoments, ?_⟩
  split
  · exact List.forall_mem_nil _
  · next scanned =>
      rw [scanned] at between
      have restarted := between.resetToSource 0
      exact List.forall_mem_cons.mpr ⟨restarted, restarted.of_mem_scanMoments⟩

theorem scanTwice (hygienic : scanner.Hygienic) : scanner.scanTwice.2.Hygienic := by
  have course : Course True scanner scanner.scanTwiceMoments scanner.scanTwice.2 :=
    course_scanTwice scanner trivial
  exact course.last hygienic hygienic.of_mem_scanTwiceMoments

end Hygienic

/-! ## Whole scans -/

/-- What clean keys are good for. -/
structure KeysClean (scanner : Scanner) : Prop where
  /-- Every key of the table is clean. -/
  defined : ∀ key ∈ scanner.macros.keys, key ≠ [] ∧ key.IsHygienic
  /-- So is every key that is being expanded. -/
  active : ∀ frame ∈ scanner.expansions.frames, frame.key ≠ [] ∧ frame.key.IsHygienic
  /-- An expansion goes on behind its key, at least one byte behind where it was entered, and within
  the buffer. -/
  advances : ∀ frame ∈ scanner.expansions.frames,
    frame.enclosing.rest = frame.key ++ frame.pending ∧ frame.enclosing.offset < frame.resume ∧
      frame.resume ≤ Text.size frame.enclosing.buffer
  /-- It is left there. -/
  leaves {outer : Scanner} (left : scanner.exit? = some outer) :
    ∃ frame ∈ scanner.expansions.frames.head?, outer.buffer = frame.enclosing.buffer ∧
      outer.offset = frame.resume
  /-- In front of a blank no key is found, so none begins within blanks that are passed over. -/
  unmatched : ∀ text : Text, text.BlankLed → scanner.macros.longestMatch? text = none

theorem Hygienic.keysClean {scanner : Scanner} (hygienic : scanner.Hygienic) :
    scanner.KeysClean where
  defined key member := ⟨(hygienic.defined key member).ne_nil, hygienic.defined key member⟩
  active frame member :=
    ⟨(hygienic.active frame member).1.ne_nil, (hygienic.active frame member).1⟩
  advances frame member := by
    obtain ⟨clean, passes⟩ := hygienic.active frame member
    obtain ⟨further, boundary⟩ := passes.bounds clean
    exact ⟨passes.rest_eq, further, boundary.le_size⟩
  leaves {outer} left := by
    obtain ⟨frame, frames, shape, _, view_eq, _⟩ := exit_eq_some left
    have member : frame ∈ scanner.expansions.frames := shape ▸ List.mem_cons_self
    obtain ⟨clean, passes⟩ := hygienic.active frame member
    refine ⟨frame, by rw [shape]; rfl, by rw [buffer, view_eq, View.buffer_reposition], ?_⟩
    rw [offset, view_eq, View.reposition, View.moveTo_eq]
    exact Text.size_splitAt (passes.bounds clean).2
  unmatched text blank :=
    MacroTable.longestMatch_eq_none_iff.mpr fun key member =>
      (hygienic.defined key member).not_begins blank

theorem Hygienic.defineAll {scanner : Scanner} {definitions : List (Text × Text)}
    (hygienic : scanner.Hygienic) (accepted : ∀ definition ∈ definitions,
      ∃ argument, Directive.split argument = .ok definition) :
    (scanner.defineAll definitions).Hygienic := by
  induction definitions generalizing scanner with
  | nil => exact hygienic
  | cons first definitions ih =>
      obtain ⟨⟨argument, parts⟩, others⟩ := List.forall_mem_cons.mp accepted
      exact ih (hygienic.define (Directive.split_eq_ok_iff.mp parts).1 first.2) others

/-- Whatever the text is, and whatever definitions are accepted beforehand, the keys are clean at
every moment of a scan and of both passes over the text, also if these end with a report. -/
theorem keys_stay_clean {definitions : List (Text × Text)}
    (accepted : ∀ definition ∈ definitions,
      ∃ argument, Directive.split argument = .ok definition) (text : Text) :
    let scanner := Command.scannerOf definitions text
    (∀ moment ∈ scanner :: scanner.scanMoments, moment.KeysClean) ∧
      (∀ moment ∈ scanner :: scanner.scanTwiceMoments, moment.KeysClean) ∧
      scanner.scanTokens.2.KeysClean ∧ scanner.scanTwice.2.KeysClean := by
  intro scanner
  have fresh : (ofText text).Hygienic := ⟨List.forall_mem_nil _, List.forall_mem_nil _⟩
  have hygienic : scanner.Hygienic := fresh.defineAll accepted
  refine ⟨?_, ?_, hygienic.scanTokens.keysClean, hygienic.scanTwice.keysClean⟩
  · refine List.forall_mem_cons.mpr ⟨hygienic.keysClean, fun moment member => ?_⟩
    exact (hygienic.of_mem_scanMoments moment member).keysClean
  · refine List.forall_mem_cons.mpr ⟨hygienic.keysClean, fun moment member => ?_⟩
    exact (hygienic.of_mem_scanTwiceMoments moment member).keysClean

/-- A macro whose replacement defines a second one, which leads back into the first. -/
def definingMacro : List (Text × Text) :=
  [(['K'], "\" M =K\" M".toList)]

theorem keys_stay_clean_definingMacro :
    let scanner := Command.scannerOf definingMacro "K;".toList
    (∀ definition ∈ definingMacro, ∃ argument, Directive.split argument = .ok definition) ∧
      scanner.scanTokens.2.macros.keys = [['K'], ['M']] ∧
      scanner.scanTokens.2.expansions.keys = [['K'], ['M']] ∧
      (∀ moment ∈ scanner :: scanner.scanMoments, moment.KeysClean) ∧
      (∀ moment ∈ scanner :: scanner.scanTwiceMoments, moment.KeysClean) ∧
      scanner.scanTokens.2.KeysClean ∧ scanner.scanTwice.2.KeysClean := by
  intro scanner
  have accepted : ∀ definition ∈ definingMacro,
      ∃ argument, Directive.split argument = .ok definition :=
    List.forall_mem_singleton.mpr ⟨"\t K=\" M =K\" M".toList, by decide +kernel⟩
  have ended : (scanWithin 5 [] scanner).map
      (fun answer => (answer.2.macros.keys, answer.2.expansions.keys)) =
        some ([['K'], ['M']], [['K'], ['M']]) := by
    decide +kernel
  obtain ⟨answer, scanned, keys_eq⟩ := Option.map_eq_some_iff.mp ended
  rw [← show scanner.scanTokens = answer from scanFrom_of_scanWithin scanned] at keys_eq
  obtain ⟨defined, active⟩ := Prod.mk.inj keys_eq
  exact ⟨accepted, defined, active, keys_stay_clean accepted _⟩

end Scanner
end MmlScan
