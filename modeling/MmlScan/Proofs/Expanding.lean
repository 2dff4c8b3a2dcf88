import MmlScan.Proofs.Pending
import MmlScan.Proofs.Stack
import MmlScan.Proofs.Table
import MmlScan.Proofs.Termination
import Mathlib.Data.List.Chain

/-!
# Expanding at the cursor

Expanding enters macros one after the other: first the one with the longest key in front of the
cursor, and then each time the one with the longest key in front of the replacement just entered.
An active key cannot be entered once more, so the keys are distinct, and there are no more of them
than were idle.  It ends either in front of a text that no key begins, or in front of an active key;
and asked once more, it reports that key again.
-/

namespace MmlScan

theorem Expansions.keys_nodup (expansions : Expansions) : expansions.keys.Nodup :=
  List.nodup_reverse.mpr expansions.distinct

namespace Scanner

namespace Enters

variable {definitions : List MacroDefinition} {scanner after : Scanner}

theorem first_longest (enters : Enters definitions scanner after) :
    ∀ first ∈ definitions.head?, scanner.macros.Longest scanner.rest first := by
  intro first at_front
  cases enters with
  | nil => cases at_front
  | cons found begun later =>
      cases at_front
      exact MacroTable.longestMatch_eq_some_iff.mp found

/-- Every macro but the first is found at the front of the replacement before it. -/
theorem chained (enters : Enters definitions scanner after) :
    definitions.IsChain fun former latter =>
      scanner.macros.Longest former.replacement latter := by
  induction enters with
  | nil => exact .nil
  | @cons definition definitions scanner inner after found begun later ih =>
      obtain ⟨_, _, macros_eq, _, view_eq, _⟩ := enter_eq_some begun
      have rest_eq : inner.rest = definition.replacement := rest_of_ofText view_eq
      have next_longest := later.first_longest
      rw [rest_eq, macros_eq] at next_longest
      rw [macros_eq] at ih
      exact List.isChain_cons.mpr ⟨next_longest, ih⟩

theorem frames_suffix (enters : Enters definitions scanner after) :
    scanner.expansions.frames <:+ after.expansions.frames := by
  induction enters with
  | nil => exact List.suffix_refl _
  | cons found begun later ih =>
      obtain ⟨_, _, _, _, _, frames_eq⟩ := enter_eq_some begun
      rw [frames_eq] at ih
      exact (List.suffix_cons _ _).trans ih

theorem source_patterns_eq (enters : Enters definitions scanner after) :
    after.source = scanner.source ∧ after.patterns = scanner.patterns := by
  induction enters with
  | nil => exact ⟨rfl, rfl⟩
  | cons found begun later ih =>
      obtain ⟨_, source_eq, _, patterns_eq, _⟩ := enter_eq_some begun
      rw [ih.1, ih.2, source_eq, patterns_eq]
      exact ⟨rfl, rfl⟩

/-- No key is entered twice, and none that was active. -/
theorem keys_fresh (enters : Enters definitions scanner after) :
    (definitions.map (·.key)).Nodup ∧
      ∀ definition ∈ definitions, definition.key ∉ scanner.expansions.keys := by
  have distinct := after.expansions.keys_nodup
  rw [enters.keys_eq, List.nodup_append'] at distinct
  obtain ⟨_, new_distinct, disjoint⟩ := distinct
  exact ⟨new_distinct, fun definition entered active =>
    disjoint active (List.mem_map_of_mem entered)⟩

end Enters

/-- The macros that expanding enters at a cursor, in order, and the scanner it leaves. -/
structure ExpansionRun (definitions : List MacroDefinition) (scanner after : Scanner) : Prop where
  enters : Enters definitions scanner after
  /-- No more macros are entered than there are idle keys. -/
  bounded : definitions.length ≤ scanner.idleKeys
  /-- The first has the longest key in front of the cursor, -/
  first_longest : ∀ first ∈ definitions.head?, scanner.macros.Longest scanner.rest first
  /-- and every other the longest key in front of the replacement before it. -/
  chained : definitions.IsChain fun former latter =>
    scanner.macros.Longest former.replacement latter
  /-- No key is entered twice, -/
  distinct : (definitions.map (·.key)).Nodup
  /-- and none that was active. -/
  fresh : ∀ definition ∈ definitions, definition.key ∉ scanner.expansions.keys
  /-- The keys become active behind the others, -/
  keys_eq : after.expansions.keys = scanner.expansions.keys ++ definitions.map (·.key)
  /-- whose frames are kept. -/
  frames_suffix : scanner.expansions.frames <:+ after.expansions.frames
  /-- The last replacement is read from its front. -/
  last_view : ∀ last ∈ definitions.getLast?, after.view = .ofText last.replacement
  /-- Without a macro nothing changes. -/
  unchanged : definitions = [] → after = scanner
  /-- Source, macros and pattern cache never change. -/
  kept : after.source = scanner.source ∧ after.macros = scanner.macros ∧
    after.patterns = scanner.patterns

theorem Enters.run {definitions : List MacroDefinition} {scanner after : Scanner}
    (enters : Enters definitions scanner after) : ExpansionRun definitions scanner after where
  enters := enters
  bounded := by
    have counted := enters.length_add_idleKeys_le
    omega
  first_longest := enters.first_longest
  chained := enters.chained
  distinct := enters.keys_fresh.1
  fresh := enters.keys_fresh.2
  keys_eq := enters.keys_eq
  frames_suffix := enters.frames_suffix
  last_view := by
    intro last at_end
    obtain ⟨entered, rfl⟩ := List.getLast?_eq_some_iff.mp at_end
    exact enters.last.2
  unchanged := by
    rintro rfl
    cases enters
    rfl
  kept := ⟨enters.source_patterns_eq.1, enters.macros_eq, enters.source_patterns_eq.2⟩

/-- The active keys, among which the refused one is, hold it once. -/
theorem count_of_refused {scanner : Scanner} {key replacement : Text}
    (refused : scanner.enter? key replacement = none) : scanner.expansions.keys.count key = 1 :=
  List.count_eq_one_of_mem scanner.expansions.keys_nodup (mem_keys_of_refused refused)

/-- Whatever is being expanded already, expanding ends.  It answers the number of macros it has
entered when no key begins the text it has reached; or it reports a cycle, when the longest key that
begins this text is active, and reports the same as often as it is asked. -/
theorem expand_specified (scanner : Scanner) :
    ∃ definitions, ExpansionRun definitions scanner scanner.expand.2 ∧
      match scanner.expand with
      | (.ok count, after) =>
          count = definitions.length ∧ ∀ key ∈ after.macros.keys, ¬ key <+: after.rest
      | (.error cycle, after) =>
          ∃ refused, after.macros.Longest after.rest refused ∧ cycle.key = refused.key ∧
            cycle.chain = after.expansions.keys ∧
            cycle.chain = scanner.expansions.keys ++ definitions.map (·.key) ∧
            cycle.chain.count cycle.key = 1 ∧ after.expand = (.error cycle, after) := by
  rcases expansion : scanner.expand with ⟨_ | _, after⟩
  case error cycle =>
    obtain ⟨definitions, refused, enters, found, not_entered, rfl⟩ :=
      enters_of_expandFrom.2 expansion
    refine ⟨definitions, enters.run, refused, MacroTable.longestMatch_eq_some_iff.mp found, rfl,
      rfl, enters.keys_eq, count_of_refused not_entered, ?_⟩
    exact expandFrom_of_refused 0 found not_entered
  case ok count =>
    obtain ⟨definitions, enters, count_eq, notFound⟩ := enters_of_expandFrom.1 expansion
    refine ⟨definitions, enters.run, ?_, MacroTable.longestMatch_eq_none_iff.mp notFound⟩
    rw [count_eq, Nat.zero_add]

example :
    let scanner := ((ofText "A".toList).define "A".toList "B".toList).define "B".toList "A".toList
    scanner.expand.1 = .error ⟨"A".toList, ["A".toList, "B".toList]⟩ := by
  decide +kernel

end Scanner
end MmlScan
