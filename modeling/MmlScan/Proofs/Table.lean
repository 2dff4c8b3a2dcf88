import MmlScan.MacroTable
import MmlScan.Proofs.Bytes
import Mathlib.Data.List.Infix
import Mathlib.Data.List.Nodup
import Mathlib.Data.List.Sort
import Mathlib.Order.Defs.Unbundled

/-!
# What a table tells

Matching order is a strict total order on keys: longer ones first, and among keys of one size the
order of their bytes.  A table in this order leaves no choice, so it is told by what its keys are
replaced by; and trying its keys in this order finds the longest one that begins a text.

Definitions, one after the other, tell for each key what the last of them says, whatever the table
said before.  So it does not matter in which order different keys are defined, and defining macros
once more changes nothing.
-/

namespace MmlScan

/-! ## Matching order -/

/-- Keys are tried by descending number of bytes, and then by ascending bytes. -/
theorem triedBefore_iff_bytes {left right : Text} :
    TriedBefore left right ↔
      left.bytes.length > right.bytes.length ∨
        left.bytes.length = right.bytes.length ∧ left.bytes < right.bytes := by
  rw [TriedBefore, Text.length_bytes, Text.length_bytes, Text.bytes_lt_iff]

instance : IsStrictTotalOrder Text TriedBefore where
  irrefl := TriedBefore.irrefl
  trans _ _ _ := TriedBefore.trans
  trichotomous left right not_before not_behind := by
    by_contra different
    exact not_behind (TriedBefore.total different not_before)

/-- Of two texts that begin one text the shorter begins the longer, so they are told apart by their
sizes. -/
theorem Text.eq_of_prefix_of_size_eq {left right text : Text} (left_begins : left <+: text)
    (right_begins : right <+: text) (same_size : size left = size right) : left = right := by
  have same_of_begins {short long : Text} (begins : short <+: long)
      (same : size short = size long) : short = long := by
    obtain ⟨behind, rfl⟩ := begins
    rw [size_append] at same
    have behind_nil : behind = [] := size_eq_zero_iff.mp (by omega)
    rw [behind_nil, List.append_nil]
  rcases List.prefix_or_prefix_of_prefix left_begins right_begins with front | front
  · exact same_of_begins front same_size
  · exact (same_of_begins front same_size.symm).symm

namespace MacroDefinition

variable {definition : MacroDefinition} {entries : List MacroDefinition}

theorem find?_insert (definition : MacroDefinition) (entries : List MacroDefinition) (key : Text) :
    (insert definition entries).find? (·.key = key) =
      if definition.key = key then some definition else entries.find? (·.key = key) := by
  induction entries with
  | nil => simp [insert]
  | cons entry entries ih =>
      rw [insert]
      split
      · next same => by_cases found : entry.key = key <;> simp [same, found]
      · next different =>
        split
        · by_cases found : definition.key = key <;> simp [found]
        · by_cases found : entry.key = key
          · simp [found, found ▸ different]
          · simp [found, ih]

/-- What a definition displaces is the entry of its key, wherever that stands in the list. -/
theorem exchange_fst
    (ordered : entries.Pairwise fun left right => TriedBefore left.key right.key) :
    (exchange definition entries).1 = entries.find? (·.key = definition.key) := by
  induction entries with
  | nil => rfl
  | cons entry entries ih =>
      obtain ⟨head, tail⟩ := List.pairwise_cons.mp ordered
      rw [exchange]
      split
      · next same => rw [List.find?_cons_of_pos (by simp [same])]
      · next different =>
        split
        · next first =>
            symm
            rw [List.find?_eq_none]
            intro later member same
            rw [decide_eq_true_eq] at same
            rcases List.mem_cons.mp member with rfl | member
            · exact different same.symm
            · have tried := first.trans (head later member)
              rw [same] at tried
              exact TriedBefore.irrefl _ tried
        · have stays : ¬ entry.key = definition.key := fun same => different same.symm
          rw [List.find?_cons_of_neg (by simpa using stays)]
          exact ih tail

end MacroDefinition

namespace MacroTable

variable {table left right : MacroTable} {key replacement text : Text}

theorem keys_ordered (table : MacroTable) : table.keys.Pairwise TriedBefore :=
  List.pairwise_map.mpr table.ordered

theorem keys_nodup (table : MacroTable) : table.keys.Nodup := by
  refine table.keys_ordered.imp fun {first second} tried same => ?_
  rw [same] at tried
  exact TriedBefore.irrefl second tried

theorem entries_nodup (table : MacroTable) : table.entries.Nodup :=
  .of_map _ table.keys_nodup

/-- A key has one definition only. -/
theorem eq_of_key_eq {left right : MacroDefinition} (left_defined : left ∈ table.entries)
    (right_defined : right ∈ table.entries) (same : left.key = right.key) : left = right :=
  List.inj_on_of_nodup_map table.keys_nodup left_defined right_defined same

theorem get?_eq_some_iff :
    table.get? key = some replacement ↔ ⟨key, replacement⟩ ∈ table.entries := by
  rw [get?, Option.map_eq_some_iff]
  constructor
  · rintro ⟨definition, found, rfl⟩
    have same := List.find?_some found
    rw [decide_eq_true_eq] at same
    rw [← same]
    exact List.mem_of_find?_eq_some found
  · intro defined
    cases found : table.entries.find? (·.key = key) with
    | none => simpa using List.find?_eq_none.mp found _ defined
    | some definition =>
        have same := List.find?_some found
        rw [decide_eq_true_eq] at same
        cases eq_of_key_eq (List.mem_of_find?_eq_some found) defined same
        exact ⟨_, rfl, rfl⟩

theorem mem_keys_iff : key ∈ table.keys ↔ ∃ replacement, table.get? key = some replacement := by
  constructor
  · intro member
    obtain ⟨definition, defined, rfl⟩ := List.mem_map.mp member
    exact ⟨definition.replacement, get?_eq_some_iff.mpr defined⟩
  · rintro ⟨replacement, told⟩
    exact List.mem_map_of_mem (get?_eq_some_iff.mp told)

/-- A table is told by the replacements of its keys. -/
theorem ext_get? (same : ∀ key, left.get? key = right.get? key) : left = right := by
  have members (definition : MacroDefinition) :
      definition ∈ left.entries ↔ definition ∈ right.entries := by
    rw [← get?_eq_some_iff, ← get?_eq_some_iff, same]
  have permuted := (List.perm_ext_iff_of_nodup left.entries_nodup right.entries_nodup).mpr members
  have entries_eq : left.entries = right.entries := by
    refine List.Perm.eq_of_pairwise (fun first second _ _ tried back => ?_) left.ordered
      right.ordered permuted
    exact absurd (tried.trans back) (TriedBefore.irrefl first.key)
  cases left
  cases right
  cases entries_eq
  rfl

/-! ## The longest key -/

/-- The definition has the longest of the keys that begin a text. -/
structure Longest (table : MacroTable) (text : Text) (definition : MacroDefinition) : Prop where
  defined : definition ∈ table.entries
  begins : definition.key <+: text
  longest : ∀ other ∈ table.entries, other.key <+: text →
    Text.size other.key ≤ Text.size definition.key

theorem Longest.unique {left right : MacroDefinition} (left_longest : table.Longest text left)
    (right_longest : table.Longest text right) : left = right := by
  apply eq_of_key_eq left_longest.defined right_longest.defined
  apply Text.eq_of_prefix_of_size_eq left_longest.begins right_longest.begins
  apply Nat.le_antisymm
  · exact right_longest.longest left left_longest.defined left_longest.begins
  · exact left_longest.longest right right_longest.defined right_longest.begins

/-- Every other key that begins the text is shorter. -/
theorem Longest.size_lt {definition other : MacroDefinition}
    (longest : table.Longest text definition) (defined : other ∈ table.entries)
    (begins : other.key <+: text) (different : other.key ≠ definition.key) :
    Text.size other.key < Text.size definition.key := by
  have size_ne := mt (Text.eq_of_prefix_of_size_eq begins longest.begins) different
  have size_le := longest.longest other defined begins
  omega

/-- Trying the keys in matching order finds the longest. -/
theorem longestMatch_eq_some_iff {definition : MacroDefinition} :
    table.longestMatch? text = some definition ↔ table.Longest text definition := by
  have longest_of_match {found : MacroDefinition} (first : table.longestMatch? text = some found) :
      table.Longest text found := by
    obtain ⟨begins, earlier, later, entries_eq, earlier_fail⟩ :=
      List.find?_eq_some_iff_append.mp first
    refine ⟨mem_of_longestMatch first, List.isPrefixOf_iff_prefix.mp begins, ?_⟩
    intro other defined other_begins
    have ordered := table.ordered
    rw [entries_eq] at defined ordered
    rcases List.mem_append.mp defined with member | member
    · have fails := earlier_fail other member
      rw [List.isPrefixOf_iff_prefix.mpr other_begins] at fails
      cases fails
    · rcases List.mem_cons.mp member with rfl | member
      · exact Nat.le_refl _
      · have tail_ordered := (List.pairwise_append.mp ordered).2.1
        rcases (List.pairwise_cons.mp tail_ordered).1 other member with shorter | ⟨same, _⟩
        · exact Nat.le_of_lt shorter
        · exact Nat.le_of_eq same.symm
  constructor
  · exact longest_of_match
  · intro longest
    cases first : table.longestMatch? text with
    | none =>
        have refused := longestMatch_eq_none_iff.mp first
        have key_defined := List.mem_map_of_mem (f := MacroDefinition.key) longest.defined
        exact absurd longest.begins (refused definition.key key_defined)
    | some found => rw [(longest_of_match first).unique longest]

/-! ## Definitions, one after the other -/

theorem get?_define (table : MacroTable) (key replacement other : Text) :
    (table.define key replacement).get? other =
      if key = other then some replacement else table.get? other := by
  rw [get?, define, MacroDefinition.find?_insert]
  split <;> rfl

/-- A definition displaces what its key was replaced by. -/
theorem exchange_eq (table : MacroTable) (key replacement : Text) :
    table.exchange key replacement = (table.get? key, table.define key replacement) := by
  rw [exchange, define, get?]
  congr 1
  · rw [MacroDefinition.exchange_fst table.ordered]
  · congr 1
    exact MacroDefinition.exchange_snd _ _

/-- Defines macros one after the other. -/
def defineAll (table : MacroTable) (definitions : List (Text × Text)) : MacroTable :=
  definitions.foldl (fun table definition => table.define definition.1 definition.2) table

theorem defineAll_append (table : MacroTable) (earlier later : List (Text × Text)) :
    table.defineAll (earlier ++ later) = (table.defineAll earlier).defineAll later :=
  List.foldl_append

/-- The last definition of a key tells its replacement; without one the table keeps what it said
before. -/
theorem get?_defineAll (table : MacroTable) (definitions : List (Text × Text)) (key : Text) :
    (table.defineAll definitions).get? key =
      (definitions.reverse.lookup key).or (table.get? key) := by
  induction definitions generalizing table with
  | nil => rfl
  | cons first definitions ih =>
      have single : (table.define first.1 first.2).get? key =
          ([first].lookup key).or (table.get? key) := by
        rw [get?_define, List.lookup_cons]
        by_cases same : first.1 = key
        · simp [same]
        · simp [same, beq_eq_false_iff_ne.mpr (Ne.symm same)]
      calc (table.defineAll (first :: definitions)).get? key
          = (definitions.reverse.lookup key).or ((table.define first.1 first.2).get? key) :=
            ih (table.define first.1 first.2)
        _ = ((definitions.reverse.lookup key).or ([first].lookup key)).or (table.get? key) := by
            rw [single, Option.or_assoc]
        _ = ((first :: definitions).reverse.lookup key).or (table.get? key) := by
            rw [List.reverse_cons, List.lookup_append]

/-- Defining macros once more over their own result changes nothing. -/
theorem defineAll_defineAll (table : MacroTable) (definitions : List (Text × Text)) :
    (table.defineAll definitions).defineAll definitions = table.defineAll definitions := by
  apply ext_get?
  intro key
  rw [get?_defineAll, get?_defineAll, ← Option.or_assoc, Option.or_self]

/-- A key is in the table if it was defined. -/
theorem mem_keys_defineAll {definitions : List (Text × Text)} :
    key ∈ (empty.defineAll definitions).keys ↔ key ∈ definitions.map Prod.fst := by
  have undefined_iff : (empty.defineAll definitions).get? key = none ↔
      key ∉ definitions.map Prod.fst := by
    have without : empty.get? key = none := rfl
    rw [get?_defineAll, without, Option.or_none, List.lookup_eq_none_iff]
    constructor
    · intro absent defined
      obtain ⟨definition, member, same⟩ := List.mem_map.mp defined
      simpa [same] using absent definition (List.mem_reverse.mpr member)
    · intro absent definition member
      rw [List.mem_reverse] at member
      have different : key ≠ definition.1 := fun same =>
        absent (same ▸ List.mem_map_of_mem member)
      simpa using different
  rw [mem_keys_iff, ← Option.isSome_iff_exists, Option.isSome_iff_ne_none, Ne, undefined_iff,
    not_not]

/-- What a table tells after the definitions, of which the last one of a key counts. -/
structure Records (table : MacroTable) (definitions : List (Text × Text)) : Prop where
  /-- A key is replaced as its last definition says, and a key without one is not. -/
  get?_eq (key : Text) : table.get? key = definitions.reverse.lookup key
  /-- The next definition answers the replacement that it displaces. -/
  exchange_eq (key replacement : Text) :
    table.exchange key replacement =
      (definitions.reverse.lookup key, empty.defineAll (definitions ++ [(key, replacement)]))
  /-- Every defined key is listed, -/
  mem_keys_iff (key : Text) : key ∈ table.keys ↔ key ∈ definitions.map Prod.fst
  /-- once, -/
  keys_nodup : table.keys.Nodup
  /-- longer keys first, and keys of one length by their bytes. -/
  keys_ordered : table.keys.Pairwise fun former latter =>
    former.bytes.length > latter.bytes.length ∨
      former.bytes.length = latter.bytes.length ∧ former.bytes < latter.bytes
  /-- There are as many macros as different keys. -/
  size_eq : table.size = (definitions.map Prod.fst).dedup.length
  /-- No macro is found exactly where no defined key begins the text. -/
  longestMatch_eq_none_iff (text : Text) :
    table.longestMatch? text = none ↔ ∀ key ∈ definitions.map Prod.fst, ¬ key <+: text
  /-- A macro is found by the key that is longer than all others that begin the text, and with the
  last replacement of the key. -/
  longestMatch_eq_some_iff (text key replacement : Text) :
    table.longestMatch? text = some ⟨key, replacement⟩ ↔
      key <+: text ∧ definitions.reverse.lookup key = some replacement ∧
      ∀ other ∈ definitions.map Prod.fst, other <+: text → other ≠ key →
        other.bytes.length < key.bytes.length

theorem records_defineAll (definitions : List (Text × Text)) :
    (empty.defineAll definitions).Records definitions := by
  have told (key : Text) :
      (empty.defineAll definitions).get? key = definitions.reverse.lookup key := by
    have without : empty.get? key = none := rfl
    rw [get?_defineAll, without, Option.or_none]
  refine
    { get?_eq := told
      exchange_eq := ?_
      mem_keys_iff := fun key => mem_keys_defineAll
      keys_nodup := keys_nodup _
      keys_ordered := (keys_ordered _).imp triedBefore_iff_bytes.mp
      size_eq := ?_
      longestMatch_eq_none_iff := ?_
      longestMatch_eq_some_iff := ?_ }
  · intro key replacement
    rw [exchange_eq, told, defineAll_append]
    rfl
  · have same_keys : (empty.defineAll definitions).keys.Perm (definitions.map Prod.fst).dedup := by
      rw [List.perm_ext_iff_of_nodup (keys_nodup _) (List.nodup_dedup _)]
      intro key
      rw [List.mem_dedup]
      exact mem_keys_defineAll
    rw [size, ← same_keys.length_eq, keys, List.length_map]
  · intro text
    rw [MacroTable.longestMatch_eq_none_iff]
    exact forall_congr' fun key => imp_congr_left mem_keys_defineAll
  · intro text key replacement
    rw [longestMatch_eq_some_iff, ← told, get?_eq_some_iff]
    constructor
    · intro longest
      refine ⟨longest.begins, longest.defined, ?_⟩
      intro other defined begins different
      obtain ⟨definition, member, rfl⟩ := List.mem_map.mp (mem_keys_defineAll.mpr defined)
      simpa using longest.size_lt member begins different
    · rintro ⟨begins, defined, shorter⟩
      refine ⟨defined, begins, fun other member other_begins => ?_⟩
      by_cases same : other.key = key
      · rw [same]
      · have other_defined := mem_keys_defineAll.mp (List.mem_map_of_mem member)
        have size_lt := shorter other.key other_defined other_begins same
        rw [Text.length_bytes, Text.length_bytes] at size_lt
        exact Nat.le_of_lt size_lt

/-- Matching order is a strict total order on keys, by their bytes.  A table records the last
definition of each key; so definitions with the same last replacements make one table, whose keys,
number, written form and matches do not tell in which order they were made. -/
theorem table_of_last_definitions :
    IsStrictTotalOrder Text TriedBefore ∧
    (∀ left right : Text, TriedBefore left right ↔
      left.bytes.length > right.bytes.length ∨
        left.bytes.length = right.bytes.length ∧ left.bytes < right.bytes) ∧
    (∀ definitions : List (Text × Text), (empty.defineAll definitions).Records definitions) ∧
    ∀ left right : List (Text × Text),
      (∀ key, left.reverse.lookup key = right.reverse.lookup key) →
      empty.defineAll left = empty.defineAll right := by
  refine ⟨inferInstance, fun _ _ => triedBefore_iff_bytes, records_defineAll,
    fun left right same => ext_get? fun key => ?_⟩
  rw [(records_defineAll left).get?_eq, (records_defineAll right).get?_eq, same]

/-- Redefined keys, one of which begins another, one of one character and two bytes, and the empty
one, in two orders. -/
theorem table_of_last_definitions_overlappingKeys :
    let left : List (Text × Text) := [
      ("a".toList, "old".toList), ("ab".toList, "2".toList), ("é".toList, "3".toList),
      ([], "4".toList), ("a".toList, "1".toList)]
    let right : List (Text × Text) := [
      ("é".toList, "old".toList), ([], "4".toList), ("é".toList, "3".toList),
      ("a".toList, "1".toList), ("ab".toList, "2".toList)]
    (∀ key, left.reverse.lookup key = right.reverse.lookup key) ∧
    empty.defineAll left = empty.defineAll right ∧
    (empty.defineAll left).keys = ["ab".toList, "é".toList, "a".toList, []] ∧
    (empty.defineAll left).longestMatch? "abc".toList = some ⟨"ab".toList, "2".toList⟩ := by
  intro left right
  have same (key : Text) : left.reverse.lookup key = right.reverse.lookup key := by
    by_cases defined : key ∈ ["ab".toList, "é".toList, "a".toList, []]
    · simp only [List.mem_cons, List.not_mem_nil, or_false] at defined
      rcases defined with rfl | rfl | rfl | rfl <;> decide
    · simp only [List.mem_cons, List.not_mem_nil, or_false, not_or, ← beq_eq_false_iff_ne]
        at defined
      obtain ⟨no_ab, no_é, no_a, no_empty⟩ := defined
      simp only [left, right, List.reverse_cons, List.reverse_nil, List.nil_append,
        List.cons_append, List.lookup_cons, List.lookup_nil, no_ab, no_é, no_a, no_empty]
  exact ⟨same, table_of_last_definitions.2.2.2 left right same, by decide, by decide⟩

end MacroTable

end MmlScan
