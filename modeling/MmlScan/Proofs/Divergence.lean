import MmlScan.Token.Scan
import Mathlib.Data.List.Forall2
import Mathlib.Order.Bounds.Defs

/-!
# Where two passes part

Two passes over a source have the same tokens throughout, or they part at one position: their
longest common front ends there, and behind it the tokens differ in some field or one of the passes
has ended.  The first divergence is that position, whichever pass is taken as the first.
-/

namespace MmlScan

namespace Token

variable {left right : Token}

/-- Two tokens agree in everything that is recorded of them. -/
structure Agrees (left right : Token) : Prop where
  text_eq : left.text = right.text
  line_eq : left.line = right.line
  offset_eq : left.offset = right.offset
  depth_eq : left.depth = right.depth

/-- Two tokens differ in something that is recorded of them. -/
inductive Differs (left right : Token) : Prop
  | text (differ : left.text ≠ right.text)
  | line (differ : left.line ≠ right.line)
  | offset (differ : left.offset ≠ right.offset)
  | depth (differ : left.depth ≠ right.depth)

theorem agrees_iff : left.Agrees right ↔ left = right := by
  constructor
  · rintro ⟨text_eq, line_eq, offset_eq, depth_eq⟩
    rcases left with ⟨text, line, offset, depth⟩
    rcases right with ⟨_, _, _, _⟩
    subst text_eq line_eq offset_eq depth_eq
    rfl
  · rintro rfl
    exact ⟨rfl, rfl, rfl, rfl⟩

theorem differs_iff : left.Differs right ↔ left ≠ right := by
  constructor
  · rintro (differ | differ | differ | differ) rfl <;> exact differ rfl
  · intro distinct
    by_contra alike
    refine distinct (agrees_iff.mp ⟨?_, ?_, ?_, ?_⟩)
    · exact not_not.mp fun differ => alike (.text differ)
    · exact not_not.mp fun differ => alike (.line differ)
    · exact not_not.mp fun differ => alike (.offset differ)
    · exact not_not.mp fun differ => alike (.depth differ)

theorem forall₂_agrees_iff {lefts rights : List Token} :
    List.Forall₂ Agrees lefts rights ↔ lefts = rights := by
  have agrees_eq : Agrees = (· = ·) := by
    funext left right
    exact propext agrees_iff
  rw [agrees_eq, List.forall₂_eq_eq_eq]

end Token

namespace Replay

variable {first second : List Token} {position : Nat}

/-! ## Parting -/

/-- At a position two lists have tokens that differ, or exactly one of the lists has ended. -/
inductive ApartAt (first second : List Token) (position : Nat) : Prop
  | tokens {token other : Token} (here : first[position]? = some token)
      (there : second[position]? = some other) (differ : token.Differs other)
  | firstEnds (ended : position = first.length) (further : position < second.length)
  | secondEnds (further : position < first.length) (ended : position = second.length)

/-- Two lists of tokens part at a position. -/
structure PartAt (first second : List Token) (position : Nat) : Prop where
  /-- Neither list ends before it. -/
  reached : position ≤ first.length ∧ position ≤ second.length
  /-- The tokens in front of it agree, one by one. -/
  agree : List.Forall₂ Token.Agrees (first.take position) (second.take position)
  /-- There they are apart. -/
  apart : ApartAt first second position

theorem ApartAt.getElem?_ne (apart : ApartAt first second position) :
    first[position]? ≠ second[position]? := by
  cases apart with
  | tokens here there differ =>
      rw [here, there]
      exact fun same => Token.differs_iff.mp differ (Option.some.inj same)
  | firstEnds ended further =>
      rw [List.getElem?_eq_none (Nat.le_of_eq ended.symm), List.getElem?_eq_getElem further]
      exact (Option.some_ne_none _).symm
  | secondEnds further ended =>
      rw [List.getElem?_eq_none (Nat.le_of_eq ended.symm), List.getElem?_eq_getElem further]
      exact Option.some_ne_none _

theorem apartAt_of_getElem?_ne (reached : position ≤ first.length ∧ position ≤ second.length)
    (differ : first[position]? ≠ second[position]?) : ApartAt first second position := by
  rcases Nat.lt_or_eq_of_le reached.1 with first_further | first_ended
  · rcases Nat.lt_or_eq_of_le reached.2 with second_further | second_ended
    · have here := List.getElem?_eq_getElem first_further
      have there := List.getElem?_eq_getElem second_further
      refine .tokens here there (Token.differs_iff.mpr fun same => differ ?_)
      rw [here, there, same]
    · exact .secondEnds first_further second_ended
  · rcases Nat.lt_or_eq_of_le reached.2 with second_further | second_ended
    · exact .firstEnds first_ended second_further
    · have here := List.getElem?_eq_none (Nat.le_of_eq first_ended.symm)
      have there := List.getElem?_eq_none (Nat.le_of_eq second_ended.symm)
      exact absurd (here.trans there.symm) differ

/-- A list cannot end in front of the first difference. -/
theorem le_length_of_parted (same : first.take position = second.take position)
    (differ : first[position]? ≠ second[position]?) : position ≤ first.length := by
  by_contra ended
  have lengths := congrArg List.length same
  rw [List.length_take, List.length_take] at lengths
  have first_ended : first[position]? = none := List.getElem?_eq_none (by omega)
  have second_ended : second[position]? = none := List.getElem?_eq_none (by omega)
  exact differ (first_ended.trans second_ended.symm)

theorem partAt_iff :
    PartAt first second position ↔
      first.take position = second.take position ∧ first[position]? ≠ second[position]? := by
  constructor
  · rintro ⟨-, agree, apart⟩
    exact ⟨Token.forall₂_agrees_iff.mp agree, apart.getElem?_ne⟩
  · rintro ⟨same, differ⟩
    have first_reached := le_length_of_parted same differ
    have second_reached := le_length_of_parted same.symm differ.symm
    exact ⟨⟨first_reached, second_reached⟩, Token.forall₂_agrees_iff.mpr same,
      apartAt_of_getElem?_ne ⟨first_reached, second_reached⟩ differ⟩

/-- The lengths of the common fronts of two lists. -/
def commonFronts (first second : List Token) : Set Nat :=
  {length | ∃ front : List Token, front <+: first ∧ front <+: second ∧ front.length = length}

/-- Lists part where their longest common front ends. -/
theorem PartAt.longest (parts : PartAt first second position) :
    IsGreatest (commonFronts first second) position := by
  obtain ⟨same, differ⟩ := partAt_iff.mp parts
  constructor
  · refine ⟨first.take position, List.take_prefix _ _, ?_, ?_⟩
    · rw [same]
      exact List.take_prefix _ _
    · rw [List.length_take]
      exact Nat.min_eq_left parts.reached.1
  · rintro length ⟨front, ⟨firsts, rfl⟩, ⟨seconds, rfl⟩, rfl⟩
    by_contra longer
    have within : position < front.length := Nat.lt_of_not_le longer
    rw [List.getElem?_append_left within, List.getElem?_append_left within] at differ
    exact differ rfl

/-! ## Looking for the difference -/

/-- Compares two lists position by position up to the end of the shorter one, and answers that end
where no tokens differ. -/
def search (first second : List Token) : Nat :=
  let common := min first.length second.length
  ((List.range common).find? fun position => first[position]? ≠ second[position]?).getD common

/-- Where lists part, the search ends. -/
theorem PartAt.search_eq (parts : PartAt first second position) :
    search first second = position := by
  obtain ⟨same, differ⟩ := partAt_iff.mp parts
  have agree_at (earlier : Nat) (before : earlier < position) :
      first[earlier]? = second[earlier]? := by
    rw [← List.getElem?_take_of_lt before, same, List.getElem?_take_of_lt before]
  have within : position ≤ min first.length second.length :=
    Nat.le_min.mpr parts.reached
  rw [search]
  rcases Nat.lt_or_eq_of_le within with inside | ended
  · have found : (List.range (min first.length second.length)).find?
        (fun position => first[position]? ≠ second[position]?) = some position := by
      rw [List.find?_range_eq_some]
      refine ⟨by simpa using differ, List.mem_range.mpr inside, fun earlier before => ?_⟩
      simpa using agree_at earlier before
    rw [found]
    rfl
  · have nowhere : (List.range (min first.length second.length)).find?
        (fun position => first[position]? ≠ second[position]?) = none := by
      rw [List.find?_range_eq_none]
      intro earlier before
      simpa using agree_at earlier (ended ▸ before)
    rw [nowhere, ended]
    rfl

theorem divergence?_eq_some_iff_partAt :
    divergence? first second = some position ↔ PartAt first second position :=
  divergence?_eq_some_iff.trans partAt_iff.symm

theorem divergence?_comm (first second : List Token) :
    divergence? second first = divergence? first second := by
  refine Option.ext fun position => ?_
  rw [divergence?_eq_some_iff, divergence?_eq_some_iff, eq_comm, ne_comm]

/-- The first divergence tells how far two passes agree. -/
structure Compared (replay : Replay) : Prop where
  /-- There is none exactly if the passes are identical. -/
  none_iff : replay.firstDivergence? = none ↔ replay.isIdentical = true
  /-- Identical passes have tokens that agree throughout. -/
  identical_iff :
    replay.isIdentical = true ↔ List.Forall₂ Token.Agrees replay.first replay.second
  /-- Otherwise there is one, and it is where a search up to the end of the shorter pass ends. -/
  searched :
    replay.firstDivergence? =
      if replay.isIdentical then none else some (search replay.first replay.second)
  /-- It is the only position at which the passes part. -/
  some_iff (position : Nat) :
    replay.firstDivergence? = some position ↔ PartAt replay.first replay.second position
  /-- The longest common front of the passes ends there. -/
  longest {position : Nat} (found : replay.firstDivergence? = some position) :
    IsGreatest (commonFronts replay.first replay.second) position
  /-- It makes no difference which pass is the first. -/
  symmetric : firstDivergence? ⟨replay.second, replay.first⟩ = replay.firstDivergence?

/-- The first divergence of two passes is where their longest common front ends. -/
theorem firstDivergence_ends_common_front (replay : Replay) : replay.Compared where
  none_iff := by
    rw [firstDivergence?, divergence?_eq_none_iff, isIdentical, decide_eq_true_iff]
  identical_iff := by
    rw [isIdentical, decide_eq_true_iff, Token.forall₂_agrees_iff]
  searched := by
    rw [firstDivergence?, isIdentical]
    cases found : divergence? replay.first replay.second with
    | none => rw [if_pos (decide_eq_true (divergence?_eq_none_iff.mp found))]
    | some position =>
        have parts := divergence?_eq_some_iff_partAt.mp found
        have different : replay.first ≠ replay.second := by
          intro same
          rw [divergence?_eq_none_iff.mpr same] at found
          cases found
        rw [if_neg (by simpa using different), parts.search_eq]
  some_iff position := divergence?_eq_some_iff_partAt
  longest found := (divergence?_eq_some_iff_partAt.mp found).longest
  symmetric := divergence?_comm replay.first replay.second

end Replay
end MmlScan
