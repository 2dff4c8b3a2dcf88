import MmlScan.Pattern.CharSet
import Mathlib.Data.List.Pairwise

/-!
# Agreement up to case

The rules of simple case folding apply to disjoint runs of code points, and none of them applies to
a folded code point.  So folding twice is folding once, and the variants of a character are the
characters that fold to the same one, whichever rule takes them there.
-/

namespace MmlScan
namespace Text

/-! ## Rules -/

namespace FoldRule

theorem fold_eq_some_iff {rule : FoldRule} {code folded : Nat} :
    rule.fold? code = some folded ↔
      ∃ distance, code = rule.first + distance ∧ rule.first + distance ≤ rule.last ∧
        distance % rule.step = 0 ∧ folded = rule.target + distance := by
  rw [fold?]
  constructor
  · intro applies
    split at applies
    · next inside =>
        cases applies
        exact ⟨code - rule.first, by omega, by omega, inside.2.2, rfl⟩
    · cases applies
  · rintro ⟨distance, rfl, within, aligned, rfl⟩
    simp [within, aligned]

/-- Going back over a rule finds the code points that it folds. -/
theorem preimage_eq_some_iff {rule : FoldRule} {code folded : Nat} :
    rule.preimage? folded = some code ↔ rule.fold? code = some folded := by
  rw [fold_eq_some_iff, preimage?]
  constructor
  · intro found
    split at found
    · next inside =>
        cases found
        exact ⟨folded - rule.target, rfl, inside.2.1, inside.2.2, by omega⟩
    · cases found
  · rintro ⟨distance, rfl, within, aligned, rfl⟩
    simp [within, aligned]

/-- The code points from a first to a last one are characters. -/
def AreChars (first last : Nat) : Prop :=
  last < 0xD800 ∨ 0xDFFF < first ∧ last < 0x110000

instance (first last : Nat) : Decidable (AreChars first last) :=
  inferInstanceAs (Decidable (_ ∨ _))

theorem AreChars.toNat_ofNat {first last code : Nat} (chars : AreChars first last)
    (first_le : first ≤ code) (le_last : code ≤ last) : (Char.ofNat code).toNat = code := by
  have valid : code.isValidChar := by
    rw [AreChars] at chars
    rw [Nat.isValidChar]
    omega
  rw [Char.ofNat, dif_pos valid]
  rfl

/-- The run of a rule ends before the run of another. -/
def Before (former latter : FoldRule) : Prop :=
  former.last < latter.first ∧ latter.first ≤ latter.last

instance (former latter : FoldRule) : Decidable (former.Before latter) :=
  inferInstanceAs (Decidable (_ ∧ _))

instance : Trans Before Before Before where
  trans before after := ⟨Nat.lt_trans (Nat.lt_of_lt_of_le before.1 before.2) after.1, after.2⟩

/-- No code point that the one rule has folded is folded by the other: the runs do not meet, or the
code points of one run lie between those of the other. -/
def misses (rule other : FoldRule) : Bool :=
  Nat.blt (rule.target + (rule.last - rule.first)) other.first || Nat.blt other.last rule.target ||
    (Nat.beq rule.first rule.last || Nat.beq rule.step other.step) &&
      !Nat.beq (rule.target % other.step) (other.first % other.step)

theorem misses_iff {rule other : FoldRule} :
    rule.misses other = true ↔
      rule.target + (rule.last - rule.first) < other.first ∨ other.last < rule.target ∨
        (rule.first = rule.last ∨ rule.step = other.step) ∧
          rule.target % other.step ≠ other.first % other.step := by
  simp [misses, Nat.blt_eq, or_assoc, ← Bool.not_eq_true, Nat.beq_eq]

theorem fold_eq_none_of_misses {rule other : FoldRule} (misses : rule.misses other = true)
    {code folded : Nat} (applies : rule.fold? code = some folded) : other.fold? folded = none := by
  obtain ⟨distance, rfl, within, aligned, rfl⟩ := fold_eq_some_iff.mp applies
  refine Option.eq_none_iff_forall_ne_some.mpr fun twice again => ?_
  obtain ⟨offset, met, offset_le, offset_aligned, rfl⟩ := fold_eq_some_iff.mp again
  rcases misses_iff.mp misses with below | above | ⟨single | same_step, residues⟩
  · omega
  · omega
  · have distance_zero : distance = 0 := by omega
    rw [distance_zero, Nat.add_zero] at met
    apply residues
    rw [met, Nat.add_mod, offset_aligned, Nat.add_zero, Nat.mod_mod]
  · apply residues
    have target_residue : (rule.target + distance) % other.step = rule.target % other.step := by
      rw [same_step] at aligned
      rw [Nat.add_mod, aligned, Nat.add_zero, Nat.mod_mod]
    rw [← target_residue, met, Nat.add_mod, offset_aligned, Nat.add_zero, Nat.mod_mod]

end FoldRule

/-! ## The table of rules -/

theorem foldRules_isChain : foldRules.IsChain FoldRule.Before := by
  decide +kernel

theorem foldRules_ascending : foldRules.Pairwise FoldRule.Before :=
  List.isChain_iff_pairwise.mp foldRules_isChain

theorem foldRules_areChars : ∀ rule ∈ foldRules, FoldRule.AreChars rule.first rule.last ∧
    FoldRule.AreChars rule.target (rule.target + (rule.last - rule.first)) := by
  decide +kernel

theorem foldRules_misses : (foldRules.all fun rule => foldRules.all rule.misses) = true := by
  decide +kernel

/-- At most one rule applies to a code point. -/
theorem fold_unique {rule other : FoldRule} {code folded again : Nat} (member : rule ∈ foldRules)
    (other_member : other ∈ foldRules) (applies : rule.fold? code = some folded)
    (other_applies : other.fold? code = some again) : folded = again := by
  have apart : foldRules.Pairwise fun left right =>
      left.last < right.first ∨ right.last < left.first :=
    foldRules_ascending.imp fun before => .inl before.1
  have symmetric : Std.Symm fun left right : FoldRule =>
      left.last < right.first ∨ right.last < left.first := ⟨fun _ _ => Or.symm⟩
  by_cases same : rule = other
  · subst same
    exact Option.some.inj (applies.symm.trans other_applies)
  · have disjoint := apart.forall member other_member same
    obtain ⟨_, rfl, _, _, _⟩ := FoldRule.fold_eq_some_iff.mp applies
    obtain ⟨_, _, _, _, _⟩ := FoldRule.fold_eq_some_iff.mp other_applies
    omega

theorem findSome_fold_eq_some_iff {code folded : Nat} :
    foldRules.findSome? (·.fold? code) = some folded ↔
      ∃ rule ∈ foldRules, rule.fold? code = some folded := by
  constructor
  · exact List.exists_of_findSome?_eq_some
  · rintro ⟨rule, member, applies⟩
    cases found : foldRules.findSome? (·.fold? code) with
    | none =>
        have fails := List.findSome?_eq_none_iff.mp found rule member
        rw [applies] at fails
        cases fails
    | some first =>
        obtain ⟨other, other_member, other_applies⟩ := List.exists_of_findSome?_eq_some found
        rw [fold_unique member other_member applies other_applies]

/-! ## Folding characters -/

/-- A rule takes a character to its folded form. -/
theorem simpleFold_of_fold {c : Char} {rule : FoldRule} {folded : Nat} (member : rule ∈ foldRules)
    (applies : rule.fold? c.toNat = some folded) :
    simpleFold c = Char.ofNat folded ∧ (simpleFold c).toNat = folded := by
  have first_rule := findSome_fold_eq_some_iff.mpr ⟨rule, member, applies⟩
  have fold_eq : simpleFold c = Char.ofNat folded := by rw [simpleFold, first_rule]
  obtain ⟨distance, _, within, _, rfl⟩ := FoldRule.fold_eq_some_iff.mp applies
  refine ⟨fold_eq, ?_⟩
  rw [fold_eq]
  exact (foldRules_areChars rule member).2.toNat_ofNat (by omega) (by omega)

/-- A character that no rule applies to folds to itself. -/
theorem simpleFold_of_no_fold {c : Char} (unfolded : ∀ rule ∈ foldRules, rule.fold? c.toNat = none) :
    simpleFold c = c := by
  rw [simpleFold, List.findSome?_eq_none_iff.mpr unfolded]

theorem simpleFold_cases (c : Char) :
    simpleFold c = c ∨ ∃ rule ∈ foldRules, rule.fold? c.toNat = some (simpleFold c).toNat := by
  cases found : foldRules.findSome? (·.fold? c.toNat) with
  | none => exact .inl (simpleFold_of_no_fold (List.findSome?_eq_none_iff.mp found))
  | some folded =>
      obtain ⟨rule, member, applies⟩ := List.exists_of_findSome?_eq_some found
      refine .inr ⟨rule, member, ?_⟩
      rw [(simpleFold_of_fold member applies).2]
      exact applies

/-- A folded character is not folded any further. -/
@[simp]
theorem simpleFold_simpleFold (c : Char) : simpleFold (simpleFold c) = simpleFold c := by
  rcases simpleFold_cases c with same | ⟨rule, member, applies⟩
  · rw [same, same]
  · apply simpleFold_of_no_fold
    intro other other_member
    have misses := List.all_eq_true.mp (List.all_eq_true.mp foldRules_misses rule member) other
      other_member
    exact FoldRule.fold_eq_none_of_misses misses applies

/-- The variants of a character are the characters with the same folded form. -/
theorem mem_caseVariants_iff {c variant : Char} :
    variant ∈ caseVariants c ↔ simpleFold variant = simpleFold c := by
  simp only [caseVariants, List.mem_cons, List.mem_filterMap, Option.map_eq_some_iff,
    FoldRule.preimage_eq_some_iff]
  constructor
  · rintro (rfl | ⟨rule, member, code, applies, rfl⟩)
    · exact simpleFold_simpleFold c
    · have code_eq : (Char.ofNat code).toNat = code := by
        obtain ⟨_, rfl, within, _, _⟩ := FoldRule.fold_eq_some_iff.mp applies
        exact (foldRules_areChars rule member).1.toNat_ofNat (by omega) (by omega)
      rw [← code_eq] at applies
      rw [(simpleFold_of_fold member applies).1, Char.ofNat_toNat]
  · intro same
    rcases simpleFold_cases variant with itself | ⟨rule, member, applies⟩
    · exact .inl (itself.symm.trans same)
    · rw [same] at applies
      exact .inr ⟨rule, member, variant.toNat, applies, Char.ofNat_toNat variant⟩

end Text

/-- A folded character set asks for agreement up to case. -/
theorem CharSet.contains_folded_single {c d : Char} :
    (folded (single c)).contains d = true ↔ Text.simpleFold d = Text.simpleFold c := by
  have contains_single (other : Char) : (single c).contains other = true ↔ other = c := by
    simp only [single, contains, Bool.and_eq_true, decide_eq_true_eq]
    exact ⟨fun bounds => Char.le_antisymm bounds.2 bounds.1, fun same => by simp [same]⟩
  rw [contains, List.any_eq_true]
  simp [contains_single, Text.mem_caseVariants_iff, eq_comm]

end MmlScan
