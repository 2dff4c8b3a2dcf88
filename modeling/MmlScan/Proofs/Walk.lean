import MmlScan.Command.Files
import MmlScan.Proofs.Bytes
import Mathlib.Data.Char
import Mathlib.Data.List.Lex
import Mathlib.Data.List.Nodup
import Mathlib.Data.List.TakeWhile

/-!
# Walking a directory

A walk goes through a directory entry by entry, in the order of the names, and through each
directory where its name comes.  The names that lead to the files then come in the order in which
lists of names are compared one by one, and no other order is left to files that are all different.
So the files of a directory can be listed in any order and put into that of the walk afterwards.
-/

namespace MmlScan

mutual

/-- What stands under a name. -/
inductive Entry where
  | file
  /-- Neither a file nor a directory. -/
  | other
  | directory (contents : Directory)

/-- What stands under the names in a directory, in the order in which it happens to be listed. -/
inductive Directory where
  | empty
  | add (name : Text) (entry : Entry) (others : Directory)

end

/-- The names in a directory. -/
def Directory.names : Directory → List Text
  | .empty => []
  | .add name _ others => name :: others.names

mutual

/-- No name stands for two entries of one directory. -/
def Entry.Distinct : Entry → Prop
  | .file | .other => True
  | .directory contents => contents.Distinct

/-- No name stands for two entries of one directory, here or below. -/
def Directory.Distinct : Directory → Prop
  | .empty => True
  | .add name entry others => name ∉ others.names ∧ entry.Distinct ∧ others.Distinct

end

mutual

/-- The names that lead from an entry to the files in it. -/
def Entry.files : Entry → List (List Text)
  | .file => [[]]
  | .other => []
  | .directory contents => contents.files

/-- The names that lead to the files below a directory, as they happen to be listed. -/
def Directory.files : Directory → List (List Text)
  | .empty => []
  | .add name entry others => entry.files.map (name :: ·) ++ others.files

end

namespace Directory

/-- The names on the left come first, or they are the same: they are compared byte by byte. -/
def byName (left right : Text × List (List Text)) : Bool :=
  decide (¬ right.1.bytes < left.1.bytes)

/-- What a name leads to, by all the names that lead there. -/
def under (part : Text × List (List Text)) : List (List Text) :=
  part.2.map (part.1 :: ·)

end Directory

mutual

/-- The names that lead to the files in an entry, in the order of a walk. -/
def Entry.walk : Entry → List (List Text)
  | .file => [[]]
  | .other => []
  | .directory contents => (contents.walks.mergeSort Directory.byName).flatMap Directory.under

/-- The names in a directory, each with the walk of what stands there. -/
def Directory.walks : Directory → List (Text × List (List Text))
  | .empty => []
  | .add name entry others => (name, entry.walk) :: others.walks

end

/-- The names that lead to the files below a directory, in the order of a walk: entries by their
names, and the contents of a directory where its name comes. -/
def Directory.walk (contents : Directory) : List (List Text) :=
  (contents.walks.mergeSort byName).flatMap under

/-! ## A walk meets every file once -/

mutual

theorem Entry.walk_perm : (entry : Entry) → entry.walk.Perm entry.files
  | .file | .other => .refl _
  | .directory contents => by
      rw [Entry.walk, Entry.files]
      exact ((List.mergeSort_perm _ _).flatMap_right _).trans contents.walks_perm

/-- In any order, what is met under all names is what is listed. -/
theorem Directory.walks_perm : (contents : Directory) →
    (contents.walks.flatMap Directory.under).Perm contents.files
  | .empty => .refl _
  | .add name entry others => by
      rw [Directory.walks, Directory.files, List.flatMap_cons]
      exact (entry.walk_perm.map _).append others.walks_perm

end

theorem Directory.walk_perm (contents : Directory) : contents.walk.Perm contents.files :=
  ((List.mergeSort_perm _ _).flatMap_right _).trans contents.walks_perm

theorem Directory.names_walks : (contents : Directory) →
    contents.walks.map (·.1) = contents.names
  | .empty => rfl
  | .add name entry others => by
      rw [Directory.walks, List.map_cons, others.names_walks, Directory.names]

theorem Directory.names_nodup : {contents : Directory} → (distinct : contents.Distinct) →
    contents.names.Nodup
  | .empty, _ => List.nodup_nil
  | .add _ _ _, distinct => List.nodup_cons.mpr ⟨distinct.1, names_nodup distinct.2.2⟩

theorem Directory.first_mem_names : {contents : Directory} → {names : List Text} →
    (listed : names ∈ contents.files) → ∃ first below, names = first :: below ∧
      first ∈ contents.names
  | .empty, _, listed => by simp [Directory.files] at listed
  | .add name _ _, _, listed => by
      rw [Directory.files] at listed
      rcases List.mem_append.mp listed with here | later
      · obtain ⟨below, _, rfl⟩ := List.mem_map.mp here
        exact ⟨name, below, rfl, List.mem_cons_self⟩
      · obtain ⟨first, below, rfl, member⟩ := Directory.first_mem_names later
        exact ⟨first, below, rfl, List.mem_cons_of_mem _ member⟩

mutual

theorem Entry.files_nodup : {entry : Entry} → (distinct : entry.Distinct) → entry.files.Nodup
  | .file, _ => List.nodup_singleton _
  | .other, _ => List.nodup_nil
  | .directory _, distinct => Directory.files_nodup distinct

theorem Directory.files_nodup : {contents : Directory} → (distinct : contents.Distinct) →
    contents.files.Nodup
  | .empty, _ => List.nodup_nil
  | .add name entry others, ⟨absent, entry_distinct, others_distinct⟩ => by
      have here : (entry.files.map (name :: ·)).Nodup :=
        (Entry.files_nodup entry_distinct).map fun _ _ same => (List.cons.inj same).2
      refine List.nodup_append.mpr ⟨here, Directory.files_nodup others_distinct,
        fun names first_mem other later same => ?_⟩
      obtain ⟨below, _, rfl⟩ := List.mem_map.mp first_mem
      obtain ⟨first, behind, rfl, member⟩ := Directory.first_mem_names later
      cases same
      exact absent member

end

/-! ## A walk goes in order -/

theorem nil_le {α : Type} [LinearOrder α] (list : List α) : [] ≤ list :=
  not_lt.mp (List.not_lt_nil list)

theorem cons_le_cons_iff {α : Type} [LinearOrder α] {first second : α} {left right : List α} :
    first :: left ≤ second :: right ↔ first < second ∨ first = second ∧ left ≤ right := by
  rw [← not_lt, List.cons_lt_cons_iff, ← not_lt]
  grind

/-- Lists of names are compared name by name. -/
theorem Place.comesFirst_iff (left right : List Text) :
    comesFirst left right = true ↔ left ≤ right := by
  induction left generalizing right with
  | nil => simp [comesFirst, nil_le]
  | cons name left ih =>
      cases right with
      | nil => simp [comesFirst, ← not_lt]
      | cons other right =>
          rw [comesFirst, cons_le_cons_iff, ← ih]
          split
          · next same => simp [same]
          · next different => simp [different]

namespace Directory

theorem byName_iff (left right : Text × List (List Text)) :
    byName left right = true ↔ left.1 ≤ right.1 := by
  rw [byName, decide_eq_true_eq, Text.bytes_lt_iff, not_lt]

/-- Under different names in order, everything comes in order. -/
theorem pairwise_sorted {parts : List (Text × List (List Text))}
    (different : (parts.map (·.1)).Nodup)
    (ordered : ∀ part ∈ parts, part.2.Pairwise (· ≤ ·)) :
    ((parts.mergeSort byName).flatMap under).Pairwise (· ≤ ·) := by
  have sorted : (parts.mergeSort byName).Pairwise fun left right => left.1 ≤ right.1 := by
    have by_names : (parts.mergeSort byName).Pairwise (byName · ·) := List.pairwise_mergeSort
      (fun left middle right front back => by
        rw [byName_iff] at front back ⊢
        exact le_trans front back)
      (fun left right => by
        rw [Bool.or_eq_true, byName_iff, byName_iff]
        exact le_total left.1 right.1) parts
    exact by_names.imp fun earlier => (byName_iff _ _).mp earlier
  have names_differ : (parts.mergeSort byName).Pairwise fun left right => left.1 ≠ right.1 := by
    have permuted := (List.mergeSort_perm parts byName).map (·.1)
    exact List.pairwise_map.mp (permuted.nodup_iff.mpr different)
  rw [List.pairwise_flatMap]
  constructor
  · intro part member
    have below_ordered := ordered part (List.mem_mergeSort.mp member)
    refine List.pairwise_map.mpr (below_ordered.imp fun earlier => ?_)
    exact cons_le_cons_iff.mpr (.inr ⟨rfl, earlier⟩)
  · refine (sorted.and names_differ).imp ?_
    intro left right apart names left_mem others right_mem
    obtain ⟨below, _, rfl⟩ := List.mem_map.mp left_mem
    obtain ⟨behind, _, rfl⟩ := List.mem_map.mp right_mem
    rcases le_iff_lt_or_eq.mp apart.1 with less | same
    · exact cons_le_cons_iff.mpr (.inl less)
    · exact absurd same apart.2

end Directory

mutual

theorem Entry.walk_ordered : {entry : Entry} → (distinct : entry.Distinct) →
    entry.walk.Pairwise (· ≤ ·)
  | .file, _ => List.pairwise_singleton _ _
  | .other, _ => List.Pairwise.nil
  | .directory _, distinct =>
      Directory.pairwise_sorted
        (by rw [Directory.names_walks]; exact Directory.names_nodup distinct)
        (Directory.walks_ordered distinct)

theorem Directory.walks_ordered : {contents : Directory} → (distinct : contents.Distinct) →
    ∀ part ∈ contents.walks, part.2.Pairwise (· ≤ ·)
  | .empty, _, part, member => by simp [Directory.walks] at member
  | .add _ _ _, distinct, part, member => by
      rw [Directory.walks] at member
      rcases List.mem_cons.mp member with rfl | later
      · exact Entry.walk_ordered distinct.2.1
      · exact Directory.walks_ordered distinct.2.2 part later

end

theorem Directory.walk_ordered {contents : Directory} (distinct : contents.Distinct) :
    contents.walk.Pairwise (· ≤ ·) :=
  Directory.pairwise_sorted (by rw [names_walks]; exact names_nodup distinct)
    (walks_ordered distinct)

/-! ## Source files -/

/-- The name of a source file: something, a dot, and one of two extensions, letters in either
case. -/
def Place.SourceName (name : Text) : Prop :=
  ∃ stem extension : Text, name = stem ++ '.' :: extension ∧ stem ≠ [] ∧
    (extension.map Char.toLower = "txt".toList ∨ extension.map Char.toLower = "mml".toList)

/-- The extension goes from the last dot on, if something stands in front of it. -/
theorem Place.extension?_eq_some_iff {name extension : Text} :
    extension? name = some extension ↔
      ∃ stem, name = stem ++ '.' :: extension ∧ stem ≠ [] ∧ '.' ∉ extension := by
  rw [extension?]
  constructor
  · intro found
    split at found
    · cases found
    · cases found
    · next dot last front shape =>
        cases found
        have is_dot := List.head?_dropWhile_not (· ≠ '.') name.reverse
        rw [shape] at is_dot
        obtain rfl : dot = '.' := by simpa using is_dot
        have name_eq := congrArg List.reverse
          (List.takeWhile_append_dropWhile (p := (· ≠ '.')) (l := name.reverse))
        rw [shape, List.reverse_append, List.reverse_reverse, List.reverse_cons,
          List.append_assoc] at name_eq
        refine ⟨(last :: front).reverse, name_eq.symm, by simp, fun found => ?_⟩
        simpa using List.mem_takeWhile_imp (List.mem_reverse.mp found)
  · rintro ⟨stem, rfl, stem_ne, absent⟩
    have plain : ∀ c ∈ extension.reverse, decide (c ≠ '.') = true := by
      intro c member
      rw [decide_eq_true_eq]
      rintro rfl
      exact absent (List.mem_reverse.mp member)
    have shape : (stem ++ '.' :: extension).reverse =
        extension.reverse ++ '.' :: stem.reverse := by simp
    obtain ⟨front, last, rfl⟩ := (List.eq_nil_or_concat stem).resolve_left stem_ne
    simp only [shape, List.takeWhile_append_of_pos plain, List.dropWhile_append_of_pos plain]
    simp

theorem Place.isSourceName_iff (name : Text) : isSourceName name = true ↔ SourceName name := by
  rw [isSourceName, Option.any_eq_true]
  simp only [extension?_eq_some_iff, sourceExtensions, List.any_cons, List.any_nil, Bool.or_false,
    Bool.or_eq_true, decide_eq_true_eq]
  constructor
  · rintro ⟨extension, ⟨stem, shape, stem_ne, _⟩, known⟩
    exact ⟨stem, extension, shape, stem_ne, known.imp Eq.symm Eq.symm⟩
  · rintro ⟨stem, extension, shape, stem_ne, known⟩
    refine ⟨extension, ⟨stem, shape, stem_ne, fun dot => ?_⟩, known.imp Eq.symm Eq.symm⟩
    -- a dot is no letter, so it would stay in the small form
    have dot_small : '.' ∈ extension.map Char.toLower := List.mem_map.mpr ⟨'.', dot, by decide⟩
    rcases known with known | known <;> rw [known] at dot_small <;>
      exact absurd dot_small (by decide)

/-- Names lead to a source file. -/
def Place.leadsToSource (names : List Text) : Bool :=
  names.getLast?.any isSourceName

/-- The source files below a directory, each of them once, in the order of a walk. -/
structure Directory.Selects (contents : Directory) (found : List (List Text)) : Prop where
  mem_iff (names : List Text) : names ∈ found ↔
    names ∈ contents.files ∧ ∃ name, names.getLast? = some name ∧ Place.SourceName name
  nodup : found.Nodup
  sublist : found.Sublist contents.walk

theorem Directory.selects {contents : Directory} (distinct : contents.Distinct) :
    contents.Selects (contents.walk.filter Place.leadsToSource) where
  mem_iff names := by
    rw [List.mem_filter, contents.walk_perm.mem_iff, Place.leadsToSource, Option.any_eq_true]
    simp only [Place.isSourceName_iff]
  nodup := (contents.walk_perm.nodup_iff.mpr (files_nodup distinct)).filter _
  sublist := List.filter_sublist

/-- However the files of a directory are listed, those that count are put into the order of the
walk. -/
theorem Directory.mergeSort_filter {contents : Directory} (distinct : contents.Distinct)
    {listed : List (List Text)} (same_files : listed.Perm contents.files) :
    (listed.filter Place.leadsToSource).mergeSort Place.comesFirst =
      contents.walk.filter Place.leadsToSource := by
  have sorted : ((listed.filter Place.leadsToSource).mergeSort Place.comesFirst).Pairwise
      (Place.comesFirst · ·) := List.pairwise_mergeSort
    (fun left middle right front back => by
      rw [Place.comesFirst_iff] at front back ⊢
      exact le_trans front back)
    (fun left right => by
      rw [Bool.or_eq_true, Place.comesFirst_iff, Place.comesFirst_iff]
      exact le_total left right)
    (listed.filter Place.leadsToSource)
  refine List.Perm.eq_of_pairwise (fun left right _ _ front back => le_antisymm front back)
    (sorted.imp fun earlier => (Place.comesFirst_iff _ _).mp earlier)
    ((walk_ordered distinct).filter _) ?_
  exact (List.mergeSort_perm _ _).trans
    ((same_files.trans contents.walk_perm.symm).filter _)

/-- The paths of the source files that a path leads to are those that a walk meets, unless there are
none. -/
theorem Directory.sources_eq {contents : Directory} (distinct : contents.Distinct)
    {listed : List (List Text)} (same_files : listed.Perm contents.files) (path : Text) :
    Place.sources path (.directory listed) =
      match contents.walk.filter Place.leadsToSource with
      | [] => .error (Place.noSources path)
      | found => .ok (found.map (Place.below path)) := by
  rw [← mergeSort_filter distinct same_files]
  rfl

end MmlScan
