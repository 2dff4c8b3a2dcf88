import MmlScan.Pattern.CharSet

/-!
# Sets of the same characters

A character that no rule of case folding touches is its own only variant.  So the set that an
expression describes changes at the bounds of the expression only, and two expressions that agree
there describe one set.
-/

namespace MmlScan

/-! ## Variants -/

namespace Text

theorem FoldRule.mem_touched {rule : FoldRule} {code : Nat}
    (touched : rule.first ≤ code ∧ code ≤ rule.last + 1 ∨
      rule.target ≤ code ∧ rule.first + (code - rule.target) ≤ rule.last + 1) :
    code ∈ rule.touched := by
  rw [FoldRule.touched, List.mem_append, List.mem_range'_1, List.mem_range'_1]
  omega

/-- A character that no rule folds, and none folds to, has no other variants. -/
theorem caseVariants_eq_singleton {c : Char}
    (alone : ∀ rule ∈ foldRules, ¬ (rule.first ≤ c.toNat ∧ c.toNat ≤ rule.last) ∧
      ¬ (rule.target ≤ c.toNat ∧ rule.first + (c.toNat - rule.target) ≤ rule.last)) :
    caseVariants c = [c] := by
  have folded : simpleFold c = c := by
    have no_rule : foldRules.findSome? (fun rule => rule.fold? c.toNat) = none := by
      refine List.findSome?_eq_none_iff.mpr fun rule member => if_neg ?_
      rintro ⟨first_le, le_last, _⟩
      exact (alone rule member).1 ⟨first_le, le_last⟩
    rw [simpleFold, no_rule]
  have no_preimage : foldRules.filterMap
      (fun rule => (rule.preimage? c.toNat).map Char.ofNat) = [] := by
    refine List.filterMap_eq_nil_iff.mpr fun rule member => ?_
    rw [Option.map_eq_none_iff]
    refine if_neg ?_
    rintro ⟨target_le, within, _⟩
    exact (alone rule member).2 ⟨target_le, within⟩
  rw [caseVariants, folded, no_preimage]

/-- Away from the bounds of case folding, neither of two neighbours has other variants. -/
theorem caseVariants_of_notMem_foldBounds {c d : Char} (next : c.toNat = d.toNat + 1)
    (inside : c.toNat ∉ foldBounds) : caseVariants c = [c] ∧ caseVariants d = [d] := by
  have untouched (rule : FoldRule) (member : rule ∈ foldRules) : c.toNat ∉ rule.touched :=
    fun touched => inside (List.mem_flatMap.mpr ⟨rule, member, touched⟩)
  constructor <;>
    refine caseVariants_eq_singleton fun rule member => ⟨fun folds => ?_, fun folded => ?_⟩ <;>
    exact untouched rule member (FoldRule.mem_touched (by omega))

end Text

/-! ## Bounds -/

theorem CharKind.contains_eq_inRanges (kind : CharKind) (c : Char) :
    kind.contains c = Text.inRanges kind.ranges c := by
  cases kind with
  | decimal => rfl
  | word => simp [contains, ranges, Text.isWordChar, Text.isAlphabetic, Text.isDecimal,
      Text.inRanges, Bool.or_assoc]
  | blank => rfl

namespace CharSet

variable {left right set : CharSet}

theorem contains_range (first last c : Char) :
    (range first last).contains c = Text.inRanges [(first.toNat, last.toNat)] c := by
  simp [contains, Text.inRanges, Char.le_def, UInt32.le_iff_toNat_le]

/-- Away from the bounds, a character is in the set if the one before it is. -/
theorem contains_eq_of_succ {c d : Char} (next : c.toNat = d.toNat + 1)
    (inside : c.toNat ∉ set.bounds) : set.contains c = set.contains d := by
  induction set with
  | empty => rfl
  | range first last =>
      rw [contains_range, contains_range]
      exact Text.inRanges_eq_of_succ next inside
  | named kind =>
      rw [contains, contains, kind.contains_eq_inRanges, kind.contains_eq_inRanges]
      exact Text.inRanges_eq_of_succ next inside
  | union left right left_ih right_ih =>
      rw [bounds, List.mem_append, not_or] at inside
      rw [contains, contains, left_ih inside.1, right_ih inside.2]
  | combined operation left right left_ih right_ih =>
      rw [bounds, List.mem_append, not_or] at inside
      rw [contains, contains, left_ih inside.1, right_ih inside.2]
  | complement set ih => rw [contains, contains, ih inside]
  | folded set ih =>
      rw [bounds, List.mem_append, not_or] at inside
      obtain ⟨alone, alone_before⟩ := Text.caseVariants_of_notMem_foldBounds next inside.2
      rw [contains, contains, alone, alone_before, List.any_cons, List.any_cons, List.any_nil,
        ih inside.1]

/-! ## Agreement -/

/-- The code point before that of a character is one of a character too, unless a row of characters
begins there. -/
theorem exists_pred {c : Char} (not_first : c.toNat ≠ 0) (not_second : c.toNat ≠ 0xE000) :
    ∃ d : Char, c.toNat = d.toNat + 1 := by
  have valid : (c.toNat - 1).isValidChar := by
    have c_valid : c.toNat.isValidChar := c.valid
    rw [Nat.isValidChar] at c_valid ⊢
    omega
  refine ⟨Char.ofNat (c.toNat - 1), ?_⟩
  rw [Char.ofNat, dif_pos valid]
  change c.toNat = c.toNat - 1 + 1
  omega

/-- Two expressions agree exactly if they describe one set. -/
theorem agrees_iff : left.agrees right = true ↔ ∀ c, left.contains c = right.contains c := by
  rw [agrees, Bool.or_eq_true, decide_eq_true_eq, List.all_eq_true]
  constructor
  · rintro (rfl | agree) c
    · rfl
    have agree_at {c : Char} (sampled : c.toNat ∈ samples left right) :
        left.contains c = right.contains c := by
      have same := agree c.toNat sampled
      rwa [Char.ofNat_toNat, beq_iff_eq] at same
    -- Both sets treat a character that is no sample like the one in front of it.
    induction code_eq : c.toNat generalizing c with
    | zero => exact agree_at (by simp [samples, code_eq])
    | succ code ih =>
        by_cases sampled : c.toNat ∈ samples left right
        · exact agree_at sampled
        · simp only [samples, List.mem_cons, List.mem_append, not_or] at sampled
          obtain ⟨not_first, not_second, left_inside, right_inside⟩ := sampled
          obtain ⟨d, next⟩ := exists_pred not_first not_second
          rw [contains_eq_of_succ next left_inside, contains_eq_of_succ next right_inside]
          exact ih d (by omega)
  · intro same
    exact .inr fun code _ => by rw [same, beq_self_eq_true]

example : (union (range 'a' 'm') (range 'h' 'z')).agrees (range 'a' 'z') = true := by
  decide

end CharSet
end MmlScan
