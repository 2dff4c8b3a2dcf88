import MmlScan.Proofs.Gate
import MmlScan.Proofs.Table
import MmlScan.Token
import Mathlib.Order.WellFounded

/-!
# Unfolding a text

What a text with macros stands for is said here without any stack.  From a position blanks are
skipped; then the longest key is replaced by the unfolding of its replacement, or else a token is
taken; and unfolding goes on behind.  A text has an unfolding exactly if this comes to an end, that
is if the positions that need one another form no infinite branch.
-/

namespace MmlScan

/-! ## Positions -/

/-- A position in a text, between the part in front of it and the part behind it. -/
structure Site where
  front : Text
  rest : Text

/-- The characters of the token in front: a run of digits, or else one character. -/
def Text.lexeme : Text → Text
  | [] => []
  | c :: rest => if c.isDigit then (c :: rest).takeWhile Char.isDigit else [c]

namespace Site

/-- The position in front of a text. -/
def start (text : Text) : Site :=
  ⟨[], text⟩

/-- The position some characters further on. -/
def advance (site : Site) (count : Nat) : Site :=
  ⟨site.front ++ site.rest.take count, site.rest.drop count⟩

/-- The position behind the blanks. -/
def skip (site : Site) : Site :=
  site.advance (site.rest.takeWhile Text.isBlank).length

/-- The token at a position. -/
def token (site : Site) (depth : Nat) : Token :=
  ⟨site.rest.lexeme, Text.lineAfter site.front, Text.size site.front, depth⟩

theorem rest_skip (site : Site) : site.skip.rest = Text.trimStart site.rest :=
  Text.drop_length_takeWhile Text.isBlank site.rest

theorem skip_of_content {site : Site} (content : site.rest = [] ∨ ¬ site.rest.BlankLed) :
    site.skip = site := by
  obtain ⟨front, rest⟩ := site
  have no_blanks : rest.takeWhile Text.isBlank = [] := by
    rcases content with rfl | content
    · rfl
    · cases rest with
      | nil => rfl
      | cons c rest =>
          rw [Text.blankLed_cons] at content
          exact List.takeWhile_cons_of_neg content
  simp [skip, advance, no_blanks]

theorem skip_skip (site : Site) : site.skip.skip = site.skip := by
  apply skip_of_content
  rw [rest_skip]
  exact Text.trimStart_content site.rest

end Site

/-! ## Unfolding -/

/-- The tokens of a text from a position on, when every key stands for the unfolding of its
replacement one level deeper. -/
inductive Unfolds (macros : MacroTable) : Nat → Site → List Token → Prop
  | finished {depth : Nat} {site : Site} (nothing : site.skip.rest = []) :
      Unfolds macros depth site []
  | key {depth : Nat} {site : Site} {definition : MacroDefinition} {inner outer : List Token}
      (remains : site.skip.rest ≠ []) (longest : macros.Longest site.skip.rest definition)
      (inside : Unfolds macros (depth + 1) (.start definition.replacement) inner)
      (behind : Unfolds macros depth (site.skip.advance definition.key.length) outer) :
      Unfolds macros depth site (inner ++ outer)
  | token {depth : Nat} {site : Site} {later : List Token} (remains : site.skip.rest ≠ [])
      (plain : ∀ key ∈ macros.keys, ¬ key <+: site.skip.rest)
      (behind : Unfolds macros depth (site.skip.advance site.skip.rest.lexeme.length) later) :
      Unfolds macros depth site (site.skip.token depth :: later)

/-- To unfold a text from the second position, it must be unfolded from the first. -/
inductive Needs (macros : MacroTable) : Site → Site → Prop
  | inside {site : Site} {definition : MacroDefinition} (remains : site.skip.rest ≠ [])
      (longest : macros.Longest site.skip.rest definition) :
      Needs macros (.start definition.replacement) site
  | behind {site : Site} {definition : MacroDefinition} (remains : site.skip.rest ≠ [])
      (longest : macros.Longest site.skip.rest definition) :
      Needs macros (site.skip.advance definition.key.length) site
  | next {site : Site} (remains : site.skip.rest ≠ [])
      (plain : ∀ key ∈ macros.keys, ¬ key <+: site.skip.rest) :
      Needs macros (site.skip.advance site.skip.rest.lexeme.length) site

namespace Unfolds

variable {macros : MacroTable} {depth : Nat} {site other : Site} {tokens : List Token}

/-- Blanks do not matter. -/
theorem of_skip_eq (same : other.skip = site.skip) (unfolds : Unfolds macros depth site tokens) :
    Unfolds macros depth other tokens := by
  cases unfolds with
  | finished nothing => exact .finished (same ▸ nothing)
  | key remains longest inside behind =>
      rw [← same] at remains longest behind
      exact .key remains longest inside behind
  | token remains plain behind =>
      rw [← same] at remains plain behind ⊢
      exact .token remains plain behind

theorem skip_iff : Unfolds macros depth site.skip tokens ↔ Unfolds macros depth site tokens := by
  constructor
  · exact of_skip_eq site.skip_skip.symm
  · exact of_skip_eq site.skip_skip

theorem finished_iff (nothing : site.skip.rest = []) :
    Unfolds macros depth site tokens ↔ tokens = [] := by
  constructor
  · intro unfolds
    cases unfolds with
    | finished => rfl
    | key remains => exact absurd nothing remains
    | token remains => exact absurd nothing remains
  · rintro rfl
    exact .finished nothing

theorem key_iff {definition : MacroDefinition} (remains : site.skip.rest ≠ [])
    (longest : macros.Longest site.skip.rest definition) :
    Unfolds macros depth site tokens ↔
      ∃ inner outer, Unfolds macros (depth + 1) (.start definition.replacement) inner ∧
        Unfolds macros depth (site.skip.advance definition.key.length) outer ∧
        tokens = inner ++ outer := by
  constructor
  · intro unfolds
    cases unfolds with
    | finished nothing => exact absurd nothing remains
    | key _ same inside behind =>
        cases same.unique longest
        exact ⟨_, _, inside, behind, rfl⟩
    | token _ plain =>
        exact absurd longest.begins (plain _ (List.mem_map_of_mem longest.defined))
  · rintro ⟨inner, outer, inside, behind, rfl⟩
    exact .key remains longest inside behind

theorem token_iff (remains : site.skip.rest ≠ [])
    (plain : ∀ key ∈ macros.keys, ¬ key <+: site.skip.rest) :
    Unfolds macros depth site tokens ↔
      ∃ later, Unfolds macros depth (site.skip.advance site.skip.rest.lexeme.length) later ∧
        tokens = site.skip.token depth :: later := by
  constructor
  · intro unfolds
    cases unfolds with
    | finished nothing => exact absurd nothing remains
    | key _ longest =>
        exact absurd longest.begins (plain _ (List.mem_map_of_mem longest.defined))
    | token _ _ behind => exact ⟨_, behind, rfl⟩
  · rintro ⟨later, behind, rfl⟩
    exact .token remains plain behind

/-! ## What an unfolding needs -/

theorem acc (unfolds : Unfolds macros depth site tokens) : Acc (Needs macros) site := by
  induction unfolds with
  | finished nothing =>
      refine ⟨_, fun part needed => ?_⟩
      cases needed <;> exact absurd nothing ‹_›
  | key remains longest inside behind inside_acc behind_acc =>
      refine ⟨_, fun part needed => ?_⟩
      cases needed with
      | inside _ same =>
          cases same.unique longest
          exact inside_acc
      | behind _ same =>
          cases same.unique longest
          exact behind_acc
      | next _ plain =>
          exact absurd longest.begins (plain _ (List.mem_map_of_mem longest.defined))
  | token remains plain behind behind_acc =>
      refine ⟨_, fun part needed => ?_⟩
      cases needed with
      | inside _ longest =>
          exact absurd longest.begins (plain _ (List.mem_map_of_mem longest.defined))
      | behind _ longest =>
          exact absurd longest.begins (plain _ (List.mem_map_of_mem longest.defined))
      | next => exact behind_acc

/-- Nothing but an infinite branch keeps a text from having an unfolding. -/
theorem exists_iff_acc :
    (∃ tokens, Unfolds macros depth site tokens) ↔ Acc (Needs macros) site := by
  constructor
  · rintro ⟨tokens, unfolds⟩
    exact unfolds.acc
  · intro accessible
    induction accessible generalizing depth with
    | intro site _ ih =>
        by_cases nothing : site.skip.rest = []
        · exact ⟨[], .finished nothing⟩
        · cases first : macros.longestMatch? site.skip.rest with
          | none =>
              have plain := MacroTable.longestMatch_eq_none_iff.mp first
              obtain ⟨later, behind⟩ : ∃ later, Unfolds macros depth _ later :=
                ih _ (.next nothing plain)
              exact ⟨_, .token nothing plain behind⟩
          | some definition =>
              have longest := MacroTable.longestMatch_eq_some_iff.mp first
              obtain ⟨inner, inside⟩ : ∃ inner, Unfolds macros (depth + 1) _ inner :=
                ih _ (.inside nothing longest)
              obtain ⟨outer, behind⟩ : ∃ outer, Unfolds macros depth _ outer :=
                ih _ (.behind nothing longest)
              exact ⟨_, .key nothing longest inside behind⟩

theorem not_of_cycle (cycle : Relation.TransGen (Needs macros) site site) :
    ¬ Unfolds macros depth site tokens := by
  intro unfolds
  have accessible := unfolds.acc.transGen
  induction accessible with
  | intro site _ ih => exact ih site cycle cycle unfolds

end Unfolds

/-- Blanks do not matter. -/
theorem Needs.skip_iff {macros : MacroTable} {part site : Site} :
    Needs macros part site.skip ↔ Needs macros part site := by
  have of_skip_eq {site other : Site} (same : other.skip = site.skip)
      (needed : Needs macros part site) : Needs macros part other := by
    cases needed with
    | inside remains longest =>
        rw [← same] at remains longest
        exact .inside remains longest
    | behind remains longest =>
        rw [← same] at remains longest ⊢
        exact .behind remains longest
    | next remains plain =>
        rw [← same] at remains plain ⊢
        exact .next remains plain
  exact ⟨of_skip_eq site.skip_skip.symm, of_skip_eq site.skip_skip⟩

end MmlScan
