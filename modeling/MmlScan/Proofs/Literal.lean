import MmlScan.Pattern.Parse

/-!
# Literal words

A word is escaped by a backslash in front of every character that has a meaning of its own in some
place of a pattern.  So the symbols of an escaped word are its characters, and whatever the word
is, its escaped form is a pattern that asks for one character after the other.
-/

namespace MmlScan
namespace Pattern

/-! ## Symbols -/

/-- Behind a backslash a character with a meaning of its own stands for itself. -/
theorem symbol_of_escaped {c : Char} (special : c ∈ metaChars) (rest : Text) :
    symbol? ('\\' :: c :: rest) = some (.char c, rest) := by
  simp only [metaChars, List.mem_cons, List.not_mem_nil, or_false] at special
  rcases special with rfl | rfl | rfl | rfl | rfl | rfl | rfl | rfl | rfl | rfl | rfl | rfl | rfl |
    rfl | rfl | rfl | rfl | rfl <;> rfl

/-- A character without a meaning of its own stands for itself. -/
theorem symbol_of_plain {c : Char} (plain : c ∉ metaChars) (rest : Text) :
    symbol? (c :: rest) = some (.char c, rest) := by
  simp only [metaChars, List.mem_cons, List.not_mem_nil, or_false, not_or] at plain
  unfold symbol?
  split <;> simp_all

/-- The symbols of an escaped word are its characters. -/
theorem symbols_escape (word : Text) : symbols? (escape word) = some (word.map .char) := by
  rw [symbols?]
  induction word with
  | nil => rfl
  | cons c word ih =>
      have escape_eq : escape (c :: word) =
          (if c ∈ metaChars then ['\\', c] else [c]) ++ escape word := List.flatMap_cons
      rw [escape_eq]
      split
      · next special =>
          have passed : (c :: escape word).length - (escape word).length = 1 := by simp
          simp only [List.cons_append, List.nil_append, symbolsFrom, symbol_of_escaped special,
            passed, ih, Option.map_some, List.map_cons]
      · next plain =>
          simp only [List.cons_append, List.nil_append, symbolsFrom, symbol_of_plain plain,
            Nat.sub_self, ih, Option.map_some, List.map_cons]

/-! ## Drafts -/

/-- The part of a character that stands for itself. -/
def charPart (ignoreCase : Bool) (c : Char) : Part :=
  ⟨.char (literal ignoreCase c), 0⟩

/-- Characters are added to the innermost group, one part for each. -/
theorem foldlM_add_chars (word : Text) (draft : Draft) :
    ∃ repeatable, (word.map Symbol.char).foldlM Draft.add? draft =
      some (draft.withGroup { draft.group with
        parts := (word.map (charPart draft.group.flags.ignoreCase)).reverse ++ draft.group.parts
        repeatable := repeatable }) := by
  induction word generalizing draft with
  | nil => exact ⟨draft.group.repeatable, rfl⟩
  | cons c word ih =>
      let added := draft.withGroup (draft.group.add (charPart draft.group.flags.ignoreCase c))
      obtain ⟨repeatable, rest_eq⟩ := ih added
      refine ⟨repeatable, ?_⟩
      have step : draft.add? (.char c) = some added := rfl
      rw [List.map_cons, List.foldlM_cons, step, Option.bind_eq_bind, Option.bind_some, rest_eq]
      simp [added, Draft.withGroup, PartialGroup.add]

/-- Characters are not nested. -/
theorem depth_sequence_chars (ignoreCase : Bool) (word : Text) :
    (Part.sequence (word.map (charPart ignoreCase))).depth ≤ 1 := by
  have flat : (word.map (charPart ignoreCase)).foldl (fun depth part => max depth part.depth) 0 =
      0 := by
    induction word with
    | nil => rfl
    | cons c word ih => exact ih
  rw [Part.sequence, Part.combine, flat]
  dsimp only
  split <;> decide

/-! ## Patterns -/

theorem choice_singleton (part : Part) : Part.choice [part] = part := by
  rw [Part.choice, Part.combine, List.foldl_cons, List.foldl_nil, Nat.zero_max]
  rfl

/-- An escaped word asks for its characters, one after the other. -/
theorem expression_escape (ignoreCase : Bool) (word : Text) :
    expression? ignoreCase (escape word) =
      some (.sequence (word.map fun c => .char (literal ignoreCase c))) := by
  obtain ⟨repeatable, draft_eq⟩ := foldlM_add_chars word (.start ignoreCase)
  let row := Part.sequence (word.map (charPart ignoreCase))
  have closed : Draft.close? ⟨⟨none, { ignoreCase }, [],
      (word.map (charPart ignoreCase)).reverse ++ [], repeatable⟩, [], [], 0⟩ =
        some row.expression := by
    have content_eq : PartialGroup.content ⟨none, { ignoreCase }, [],
        (word.map (charPart ignoreCase)).reverse ++ [], repeatable⟩ = row := by
      rw [PartialGroup.content, PartialGroup.endAlternative, List.append_nil,
        List.reverse_reverse, List.nil_append, choice_singleton]
    have shallow : row.depth ≤ Draft.depthLimit :=
      Nat.le_trans (depth_sequence_chars ignoreCase word) (by decide)
    rw [Draft.close?, content_eq]
    simp [shallow]
  rw [expression?, symbols_escape, Option.bind_eq_bind, Option.bind_some, draft_eq]
  refine closed.trans ?_
  simp [row, Part.sequence, Part.combine, charPart, Function.comp_def]

/-- Every escaped word is a written pattern. -/
theorem parse_escape (ignoreCase : Bool) (word : Text) :
    parse? ignoreCase (escape word) =
      some (Expression.sequence (word.map fun c => .char (literal ignoreCase c))).toPattern := by
  rw [parse?, expression_escape]
  rfl

end Pattern
end MmlScan
