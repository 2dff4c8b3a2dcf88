import MmlScan.Json

/-!
# Macro tables

A macro replaces its key by a text.  A table keeps its macros in matching order: longer keys, in
bytes, before shorter ones, and keys of one size in ascending order of their characters.  So the
first key that begins a text is the longest one that does.
-/

namespace MmlScan

/-- The key `left` is tried before the key `right`. -/
def TriedBefore (left right : Text) : Prop :=
  Text.size right < Text.size left ∨ Text.size left = Text.size right ∧ left < right

instance (left right : Text) : Decidable (TriedBefore left right) :=
  inferInstanceAs (Decidable (_ ∨ _))

namespace TriedBefore

theorem irrefl (key : Text) : ¬ TriedBefore key key := by
  rintro (shorter | ⟨_, smaller⟩)
  · exact Nat.lt_irrefl _ shorter
  · exact List.lt_irrefl key smaller

theorem trans {first second third : Text} (left : TriedBefore first second)
    (right : TriedBefore second third) : TriedBefore first third := by
  rcases left with left | ⟨leftSize, left⟩ <;> rcases right with right | ⟨rightSize, right⟩
  · exact .inl (by omega)
  · exact .inl (by omega)
  · exact .inl (by omega)
  · exact .inr ⟨leftSize.trans rightSize, List.lt_trans left right⟩

/-- Of two different keys one is tried before the other. -/
theorem total {left right : Text} (different : left ≠ right) (later : ¬ TriedBefore left right) :
    TriedBefore right left := by
  rcases Nat.lt_trichotomy (Text.size left) (Text.size right) with shorter | same | longer
  · exact .inl shorter
  · refine .inr ⟨same.symm, ?_⟩
    have left_not_lt : ¬ left < right := fun smaller => later (.inr ⟨same, smaller⟩)
    rcases Std.lt_trichotomy left right with smaller | equal | greater
    · exact absurd smaller left_not_lt
    · exact absurd equal different
    · exact greater
  · exact absurd (.inl longer) later

end TriedBefore

/-- A key with its replacement. -/
structure MacroDefinition where
  key : Text
  replacement : Text
  deriving DecidableEq, Repr

namespace MacroDefinition

/-- Puts a definition into its place, instead of an older one of the same key. -/
def insert (definition : MacroDefinition) : List MacroDefinition → List MacroDefinition
  | [] => [definition]
  | entry :: entries =>
      if definition.key = entry.key then definition :: entries
      else if TriedBefore definition.key entry.key then definition :: entry :: entries
      else entry :: insert definition entries

theorem mem_insert {definition member : MacroDefinition} {entries : List MacroDefinition}
    (inserted : member ∈ insert definition entries) : member = definition ∨ member ∈ entries := by
  induction entries with
  | nil => simpa [insert] using inserted
  | cons entry entries ih =>
      rw [insert] at inserted
      split at inserted
      · rcases List.mem_cons.mp inserted with found | found
        · exact .inl found
        · exact .inr (List.mem_cons_of_mem _ found)
      · split at inserted
        · exact List.mem_cons.mp inserted
        · rcases List.mem_cons.mp inserted with found | found
          · exact .inr (found ▸ List.mem_cons_self)
          · exact (ih found).imp_right (List.mem_cons_of_mem _)

theorem insert_pairwise {definition : MacroDefinition} {entries : List MacroDefinition}
    (ordered : entries.Pairwise fun left right => TriedBefore left.key right.key) :
    (insert definition entries).Pairwise fun left right => TriedBefore left.key right.key := by
  induction entries with
  | nil => simp [insert]
  | cons entry entries ih =>
      obtain ⟨head, tail⟩ := List.pairwise_cons.mp ordered
      rw [insert]
      split
      · next same => exact List.pairwise_cons.mpr ⟨fun later found => same ▸ head later found, tail⟩
      · split
        · next different first =>
            refine List.pairwise_cons.mpr ⟨fun later found => ?_, ordered⟩
            rcases List.mem_cons.mp found with rfl | found
            · exact first
            · exact first.trans (head later found)
        · next different later =>
            refine List.pairwise_cons.mpr ⟨fun member found => ?_, ih tail⟩
            rcases mem_insert found with rfl | found
            · exact TriedBefore.total different later
            · exact head member found

/-- Puts a definition into its place, and answers the older one of the same key, if it displaces
one. -/
def exchange (definition : MacroDefinition) :
    List MacroDefinition → Option MacroDefinition × List MacroDefinition
  | [] => (none, [definition])
  | entry :: entries =>
      if definition.key = entry.key then (some entry, definition :: entries)
      else if TriedBefore definition.key entry.key then (none, definition :: entry :: entries)
      else
        let (displaced, others) := exchange definition entries
        (displaced, entry :: others)

theorem exchange_snd (definition : MacroDefinition) (entries : List MacroDefinition) :
    (exchange definition entries).2 = insert definition entries := by
  induction entries with
  | nil => rfl
  | cons entry entries ih =>
      rw [exchange, insert]
      split
      · rfl
      · split
        · rfl
        · exact congrArg (entry :: ·) ih

end MacroDefinition

/-- The macros that are defined, in matching order. -/
structure MacroTable where
  /-- The definitions, one for each key. -/
  entries : List MacroDefinition
  /-- The keys are in matching order, so they are distinct. -/
  ordered : entries.Pairwise fun left right => TriedBefore left.key right.key
  deriving DecidableEq

namespace MacroTable

/-- No macro is defined. -/
def empty : MacroTable :=
  ⟨[], .nil⟩

/-- The replacement of a key. -/
def get? (table : MacroTable) (key : Text) : Option Text :=
  (table.entries.find? (·.key = key)).map (·.replacement)

/-- The key has a replacement. -/
def contains (table : MacroTable) (key : Text) : Bool :=
  (table.get? key).isSome

/-- Defines a macro, instead of an older one of the same key. -/
def define (table : MacroTable) (key replacement : Text) : MacroTable :=
  ⟨MacroDefinition.insert ⟨key, replacement⟩ table.entries,
    MacroDefinition.insert_pairwise table.ordered⟩

/-- Defines a macro, and answers the replacement that it displaces. -/
def exchange (table : MacroTable) (key replacement : Text) : Option Text × MacroTable :=
  let exchanged := MacroDefinition.exchange ⟨key, replacement⟩ table.entries
  (exchanged.1.map (·.replacement),
    ⟨exchanged.2, MacroDefinition.exchange_snd _ _ ▸ MacroDefinition.insert_pairwise table.ordered⟩)

/-- The macro with the longest key that begins the text. -/
def longestMatch? (table : MacroTable) (text : Text) : Option MacroDefinition :=
  table.entries.find? fun definition => definition.key.isPrefixOf text

theorem mem_of_longestMatch {table : MacroTable} {text : Text} {definition : MacroDefinition}
    (found : table.longestMatch? text = some definition) : definition ∈ table.entries :=
  List.mem_of_find?_eq_some found

theorem append_of_longestMatch {table : MacroTable} {text : Text} {definition : MacroDefinition}
    (found : table.longestMatch? text = some definition) :
    ∃ behind, definition.key ++ behind = text := by
  rw [longestMatch?] at found
  have begins := List.find?_some found
  exact List.isPrefixOf_iff_prefix.mp begins

/-- The keys in matching order. -/
def keys (table : MacroTable) : List Text :=
  table.entries.map (·.key)

/-- Number of macros. -/
def size (table : MacroTable) : Nat :=
  table.entries.length

/-- No macro is found exactly where no key begins the text. -/
theorem longestMatch_eq_none_iff {table : MacroTable} {text : Text} :
    table.longestMatch? text = none ↔ ∀ key ∈ table.keys, ¬ key <+: text := by
  simp [longestMatch?, keys, List.isPrefixOf_iff_prefix]

/-- The table as one JSON object without blanks, in matching order. -/
def toJson (table : MacroTable) : Text :=
  let members := table.entries.map fun definition =>
    Json.quote definition.key ++ ':' :: Json.quote definition.replacement
  '\x7b' :: Text.joinWith [','] members ++ ['\x7d']

end MacroTable

end MmlScan
