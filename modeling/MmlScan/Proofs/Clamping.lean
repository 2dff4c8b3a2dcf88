import MmlScan.Proofs.Bytes
import MmlScan.Proofs.View
import MmlScan.Scanner
import Mathlib.Order.Bounds.Basic

/-!
# Clamped offsets

A position can be asked for with any number, and is clamped: the cursor goes to the greatest
boundary of the buffer that is not beyond that number.  Views find it by counting the characters
that fit.  On the UTF-8 form of the buffer it is found by going back byte by byte, from the number
or from the end if that comes first, until a character begins.  This stops at zero at the latest,
for a text begins with a character, and after three steps at most, for no character has more than
four bytes.
-/

namespace MmlScan

namespace Text

variable {text : Text} {offset boundary : Nat}

/-! ## The greatest boundary -/

/-- The boundary at which a text is cut. -/
def clamp (text : Text) (offset : Nat) : Nat :=
  size (splitAt text offset).1

/-- The boundaries of a text that are beyond neither an offset nor the text. -/
def boundariesTo (text : Text) (offset : Nat) : Set Nat :=
  {boundary | text.IsBoundary boundary ∧ boundary ≤ min offset (size text)}

theorem clamp_append (front behind : Text) (fits : size front ≤ offset) :
    clamp (front ++ behind) offset = size front + clamp behind (offset - size front) := by
  rw [clamp, splitAt_append_of_le front behind fits, size_append, clamp, splitAt, List.splitAt_eq]

theorem clamp_cons (c : Char) (rest : Text) (offset : Nat) :
    clamp (c :: rest) offset =
      if c.utf8Size ≤ offset then c.utf8Size + clamp rest (offset - c.utf8Size) else 0 := by
  split
  · next fits => simpa using clamp_append [c] rest (by simpa using fits)
  · next crosses =>
      have cut := splitAt_append_of_lt [] c rest (Nat.zero_le offset) (by simpa using crosses)
      rw [clamp, ← List.nil_append (c :: rest), cut, size_nil]

theorem isBoundary_clamp (text : Text) (offset : Nat) : text.IsBoundary (text.clamp offset) :=
  ⟨_, _, (splitAt_append text offset).symm, rfl⟩

theorem clamp_le (text : Text) (offset : Nat) : text.clamp offset ≤ offset := by
  induction text generalizing offset with
  | nil => exact Nat.zero_le offset
  | cons c rest ih =>
      rw [clamp_cons]
      split
      · next fits =>
          have inner := ih (offset - c.utf8Size)
          omega
      · exact Nat.zero_le offset

/-- The character that is cut off has at most four bytes, and the last of them does not fit. -/
theorem min_le_clamp_add (text : Text) (offset : Nat) :
    min offset (size text) ≤ text.clamp offset + 3 := by
  induction text generalizing offset with
  | nil => simp
  | cons c rest ih =>
      have width_le := c.utf8Size_le_four
      rw [clamp_cons, size_cons]
      split
      · next fits =>
          have inner := ih (offset - c.utf8Size)
          omega
      · omega

theorem isGreatest_clamp (text : Text) (offset : Nat) :
    IsGreatest (text.boundariesTo offset) (text.clamp offset) := by
  constructor
  · have boundary := text.isBoundary_clamp offset
    exact ⟨boundary, Nat.le_min.mpr ⟨text.clamp_le offset, boundary.le_size⟩⟩
  · rintro boundary ⟨⟨front, behind, rfl, rfl⟩, within⟩
    rw [clamp_append front behind (Nat.le_min.mp within).1]
    exact Nat.le_add_right _ _

theorem clamp_monotone (text : Text) : Monotone text.clamp := by
  intro offset further le
  refine (text.isGreatest_clamp offset).mono (text.isGreatest_clamp further) ?_
  rintro boundary ⟨isBoundary, within⟩
  exact ⟨isBoundary, within.trans (min_le_min_right _ le)⟩

theorem clamp_eq_self_iff : text.clamp offset = offset ↔ text.IsBoundary offset := by
  constructor
  · intro fixed
    rw [← fixed]
    exact text.isBoundary_clamp offset
  · exact size_splitAt

/-! ## Going back byte by byte -/

/-- At the offset of a UTF-8 form a character begins, or the form ends. -/
def isCut (bytes : List UInt8) (offset : Nat) : Bool :=
  match bytes[offset]? with
  | some byte => byte.IsUTF8FirstByte
  | none => offset = bytes.length

/-- Goes back byte by byte to where a character begins or the form ends.  From zero there is no way
back. -/
def walkBack? (bytes : List UInt8) : Nat → Option Nat
  | 0 => if isCut bytes 0 then some 0 else none
  | offset + 1 => if isCut bytes (offset + 1) then some (offset + 1) else walkBack? bytes offset

/-- The walk ends at the first cut that it comes to, which is the greatest. -/
theorem walkBack_of_isGreatest {bytes : List UInt8} {found : Nat}
    (greatest : IsGreatest {cut | isCut bytes cut = true ∧ cut ≤ offset} found) :
    walkBack? bytes offset = some found := by
  obtain ⟨⟨cut, found_le⟩, upper⟩ := greatest
  induction offset with
  | zero =>
      obtain rfl := Nat.le_zero.mp found_le
      rw [walkBack?, if_pos cut]
  | succ offset ih =>
      rw [walkBack?]
      split
      · next here => rw [Nat.le_antisymm (upper ⟨here, Nat.le_refl _⟩) found_le]
      · next inside =>
          have found_ne : found ≠ offset + 1 := by
            rintro rfl
            exact inside cut
          refine ih ?_ (by omega)
          rintro other ⟨other_cut, other_le⟩
          exact upper ⟨other_cut, Nat.le_succ_of_le other_le⟩

/-- Of the bytes of a character only the first begins it. -/
theorem isCut_of_lt (c : Char) (rest : Text) (within : offset < c.utf8Size) :
    isCut (bytes (c :: rest)) offset = true ↔ offset = 0 := by
  have bound : offset < (String.utf8EncodeChar c).length := by
    rwa [String.length_utf8EncodeChar]
  rw [isCut, bytes_cons, List.getElem?_append_left bound, List.getElem?_eq_getElem bound]
  simp only [decide_eq_true_eq]
  exact UInt8.isUTF8FirstByte_getElem_utf8EncodeChar

/-- Behind a character the form of the rest follows. -/
theorem isCut_of_le (c : Char) (rest : Text) (beyond : c.utf8Size ≤ offset) :
    isCut (bytes (c :: rest)) offset = isCut (bytes rest) (offset - c.utf8Size) := by
  have bound : (String.utf8EncodeChar c).length ≤ offset := by
    rwa [String.length_utf8EncodeChar]
  rw [isCut, bytes_cons, List.getElem?_append_right bound, String.length_utf8EncodeChar, isCut]
  cases (bytes rest)[offset - c.utf8Size]? with
  | some byte => rfl
  | none =>
      simp only [List.length_append, String.length_utf8EncodeChar, decide_eq_decide]
      omega

theorem isBoundary_cons_iff {c : Char} {rest : Text} :
    IsBoundary (c :: rest) offset ↔
      offset = 0 ∨ c.utf8Size ≤ offset ∧ rest.IsBoundary (offset - c.utf8Size) := by
  constructor
  · rintro ⟨front, behind, shape, rfl⟩
    cases front with
    | nil => exact .inl rfl
    | cons d front =>
        obtain ⟨rfl, rest_eq⟩ := List.cons.inj shape
        rw [size_cons, Nat.add_sub_cancel_left]
        exact .inr ⟨Nat.le_add_right _ _, front, behind, rest_eq, rfl⟩
  · rintro (rfl | ⟨fits, front, behind, rfl, size_eq⟩)
    · exact isBoundary_zero _
    · refine ⟨c :: front, behind, rfl, ?_⟩
      rw [size_cons, size_eq, Nat.add_sub_cancel' fits]

/-- The boundaries of a text are the cuts of its UTF-8 form. -/
theorem isCut_bytes_iff : isCut (bytes text) offset = true ↔ text.IsBoundary offset := by
  induction text generalizing offset with
  | nil =>
      constructor
      · intro cut
        obtain rfl : offset = 0 := by simpa [isCut, bytes] using cut
        exact isBoundary_zero _
      · intro boundary
        obtain rfl := Nat.le_zero.mp boundary.le_size
        rfl
  | cons c rest ih =>
      rw [isBoundary_cons_iff]
      by_cases fits : c.utf8Size ≤ offset
      · have width_pos := c.utf8Size_pos
        rw [isCut_of_le c rest fits, ih]
        constructor
        · exact fun boundary => .inr ⟨fits, boundary⟩
        · rintro (rfl | ⟨-, boundary⟩)
          · omega
          · exact boundary
      · rw [isCut_of_lt c rest (Nat.lt_of_not_le fits)]
        simp [fits]

theorem walkBack_bytes (text : Text) (offset : Nat) :
    walkBack? (bytes text) (min offset (size text)) = some (text.clamp offset) := by
  apply walkBack_of_isGreatest
  simp only [isCut_bytes_iff]
  exact text.isGreatest_clamp offset

/-- An offset inside the last character goes back to its first byte. -/
example : walkBack? (bytes ['a', 'é']) 2 = some 1 := by decide

/-- Offsets are clamped to a text. -/
structure Clamps (text : Text) (clamp : Nat → Nat) : Prop where
  /-- Going back byte by byte, from the offset or from the end of the text, ends at the clamped
  offset and does not go on below zero. -/
  walk (offset : Nat) : walkBack? (bytes text) (min offset (size text)) = some (clamp offset)
  /-- It is the greatest boundary that is beyond neither the offset nor the text. -/
  greatest (offset : Nat) : IsGreatest (text.boundariesTo offset) (clamp offset)
  /-- A greater offset is not clamped to a smaller one. -/
  monotone : Monotone clamp
  /-- What has been clamped stays. -/
  idempotent (offset : Nat) : clamp (clamp offset) = clamp offset
  /-- The offsets that stay are the boundaries. -/
  fixed_iff (offset : Nat) : clamp offset = offset ↔ text.IsBoundary offset
  /-- An offset within the text goes back by three bytes at most. -/
  near (offset : Nat) : min offset (size text) ≤ clamp offset + 3

theorem clamps_clamp (text : Text) : text.Clamps text.clamp where
  walk := text.walkBack_bytes
  greatest := text.isGreatest_clamp
  monotone := text.clamp_monotone
  idempotent offset := clamp_eq_self_iff.mpr (text.isBoundary_clamp offset)
  fixed_iff _ := clamp_eq_self_iff
  near := text.min_le_clamp_add

end Text

/-! ## Setting a position -/

namespace View

/-- The cursor stands in the text where the offset is clamped to. -/
structure StandsAt (view : View) (text : Text) (offset : Nat) : Prop where
  buffer_eq : view.buffer = text
  offset_eq : view.offset = text.clamp offset

theorem offset_moveTo (view : View) (target : Nat) :
    (view.moveTo target).offset = view.buffer.clamp target := by
  rw [moveTo_eq]
  rfl

theorem standsAt_reposition (view : View) (offset : Nat) :
    (view.reposition offset).StandsAt view.buffer offset :=
  ⟨buffer_reposition view offset, view.offset_moveTo offset⟩

theorem standsAt_seek (view : View) (offset : Nat) :
    (view.seek offset).StandsAt view.buffer offset :=
  ⟨buffer_seek view offset, view.archive.offset_moveTo offset⟩

end View

namespace Scanner

/-- Wherever a scanner sets a position, it is clamped to the buffer that is read then. -/
structure ClampsPositions (scanner : Scanner) : Prop where
  reposition (offset : Nat) :
    (scanner.reposition offset).view.StandsAt scanner.buffer offset
  seek (offset : Nat) : (scanner.seek offset).view.StandsAt scanner.buffer offset
  resetToSource (offset : Nat) :
    (scanner.resetToSource offset).view.StandsAt scanner.source offset
  /-- Reading goes on around the innermost key where that was to be resumed. -/
  leave {frame : Expansion} {frames : List Expansion}
    (innermost : scanner.expansions.frames = frame :: frames) :
    ∃ outer, scanner.exit? = some outer ∧
      outer.view.StandsAt frame.enclosing.buffer frame.resume

theorem clampsPositions (scanner : Scanner) : scanner.ClampsPositions where
  reposition offset := scanner.view.standsAt_reposition offset
  seek offset := scanner.view.standsAt_seek offset
  resetToSource offset := (View.ofText scanner.source).standsAt_reposition offset
  leave {frame frames} innermost := by
    cases left : scanner.exit? with
    | none =>
        have outermost : scanner.expansions.frames.length = 0 := exit_eq_none_iff.mp left
        rw [innermost] at outermost
        cases outermost
    | some outer =>
        obtain ⟨found, others, shape, _, view_eq, _⟩ := exit_eq_some left
        obtain ⟨rfl, -⟩ := List.cons.inj (innermost.symm.trans shape)
        refine ⟨outer, rfl, ?_⟩
        rw [view_eq]
        exact frame.enclosing.standsAt_reposition frame.resume

/-- Clamping finds the greatest boundary for every text and every offset, and the operations of
views and scanners that set a position put the cursor there. -/
theorem positions_are_clamped :
    (∀ text : Text, text.Clamps text.clamp) ∧
      (∀ (view : View) (offset : Nat),
        (view.reposition offset).StandsAt view.buffer offset ∧
          (view.seek offset).StandsAt view.buffer offset) ∧
      ∀ scanner : Scanner, scanner.ClampsPositions :=
  ⟨Text.clamps_clamp,
    fun view offset => ⟨view.standsAt_reposition offset, view.standsAt_seek offset⟩,
    clampsPositions⟩

end Scanner
end MmlScan
