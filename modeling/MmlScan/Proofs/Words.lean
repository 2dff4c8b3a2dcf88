import MmlScan.Proofs.Folding
import MmlScan.Proofs.Literal
import MmlScan.Proofs.Trimming

/-!
# Directive words

The pattern of an escaped word is a row of characters, and a row is matched by a single thread that
reads one character after the other.  So a word is read exactly where the text behind the cursor
begins with characters that agree with those of the word up to case, whatever the word is.
-/

namespace MmlScan

/-! ## Rows of characters -/

namespace Pattern

/-- A row of characters, one of each set. -/
def row (place : Nat) : List CharSet → Pattern
  | [] => .empty
  | [set] => .char place set
  | set :: sets => .seq (.char place set) (row (place + 1) sets)

theorem build_ofParts_chars (sets : List CharSet) (place : Nat) :
    (Expression.ofParts (sets.map .char)).build.run place = (row place sets, place + sets.length) := by
  fun_induction row place sets with
  | case1 place => rfl
  | case2 place set => rfl
  | case3 place set sets several ih =>
      obtain ⟨next, sets, rfl⟩ := List.exists_cons_of_ne_nil several
      have parts_eq : Expression.ofParts ((set :: next :: sets).map .char) =
          .seq (.char set) (Expression.ofParts ((next :: sets).map .char)) := rfl
      have length_eq : place + (set :: next :: sets).length =
          place + 1 + (next :: sets).length := by
        simp only [List.length_cons]
        omega
      rw [parts_eq, length_eq]
      change (Pattern.seq (.char place set)
        ((Expression.ofParts ((next :: sets).map .char)).build.run (place + 1)).1,
          ((Expression.ofParts ((next :: sets).map .char)).build.run (place + 1)).2) = _
      rw [ih]

/-- The text begins with a character of each set, one after the other. -/
def admits : List CharSet → Text → Bool
  | [], _ => true
  | _ :: _, [] => false
  | set :: sets, c :: rest => set.contains c && admits sets rest

theorem admits_eq_true_iff {sets : List CharSet} {text : Text} :
    admits sets text = true ↔
      List.Forall₂ (fun c set => set.contains c = true) (text.take sets.length) sets := by
  fun_induction admits sets text with
  | case1 text => simp
  | case2 set sets => simp
  | case3 set sets c rest ih => simp [ih]

/-- What a row leads to: one thread, that reads a character of the first set and goes on with the
others. -/
theorem threads_row (start place : Nat) (before after : Option Char) (set : CharSet)
    (sets : List CharSet) :
    ∃ agenda, (exploreAll start before after [row place (set :: sets)] .start).threads =
        [.read start set agenda] ∧
      ∀ before after frontier, exploreAll start before after agenda frontier =
        exploreAll start before after [row (place + 1) sets] frontier := by
  have met (agenda : List Pattern) :
      (Frontier.meet place (Frontier.push (.read start set agenda)) .start).threads =
        [.read start set agenda] := by
    simp [Frontier.meet, Frontier.push, Frontier.start, Frontier.threads]
  cases sets with
  | nil => exact ⟨[], met [], fun _ _ _ => rfl⟩
  | cons next sets => exact ⟨[row (place + 1) (next :: sets)], met _, fun _ _ _ => rfl⟩

section Rows

variable {pattern : Pattern} {frontier : Frontier}

/-- Where a match is complete and nothing else lives, it is the answer. -/
theorem run_complete {position start : Nat} {before : Option Char} {text : Text}
    (threads_eq : Search.threadsAt ⟨pattern, true⟩ position before text.head? none frontier =
      [.accept start]) :
    Search.run ⟨pattern, true⟩ position before none frontier text = some (start, position) := by
  cases text with
  | nil =>
      rw [Search.run, ← List.head?_nil, threads_eq]
      rfl
  | cons c rest =>
      rw [Search.run_cons_anchored threads_eq]
      exact Search.run_without_threads _ _ _ _ rfl

/-- A row is matched to its end, or not at all. -/
theorem run_row {position place : Nat} {before : Option Char} {sets : List CharSet} {text : Text}
    (threads_eq : Search.threadsAt ⟨pattern, true⟩ position before text.head? none frontier =
      (exploreAll 0 before text.head? [row place sets] .start).threads) :
    Search.run ⟨pattern, true⟩ position before none frontier text =
      if admits sets text then some (0, position + sets.length) else none := by
  induction sets generalizing position place before frontier text with
  | nil =>
      rw [run_complete threads_eq]
      rfl
  | cons set sets ih =>
      obtain ⟨agenda, row_threads, agenda_eq⟩ :=
        threads_row 0 place before text.head? set sets
      rw [row_threads] at threads_eq
      cases text with
      | nil =>
          rw [Search.run, ← List.head?_nil, threads_eq]
          rfl
      | cons c rest =>
          rw [Search.run_cons_read threads_eq, admits]
          by_cases member : set.contains c = true
          · have next : Search.threadsAt ⟨pattern, true⟩ (position + 1) (some c) rest.head? none
                (exploreAll 0 (some c) rest.head? [row (place + 1) sets] .start) =
                  (exploreAll 0 (some c) rest.head? [row (place + 1) sets] .start).threads :=
              Search.threadsAt_anchored _ _ _ _ _
            rw [if_pos member, agenda_eq, ih next, member, Bool.true_and, List.length_cons]
            simp only [Nat.add_assoc, Nat.add_comm 1]
          · simp [member]

theorem matchFront_row (place : Nat) (sets : List CharSet) (text : Text) :
    (row place sets).matchFront? text = if admits sets text then some sets.length else none := by
  have threads_eq : Search.threadsAt ⟨row place sets, true⟩ 0 none text.head? none .start =
      (exploreAll 0 none text.head? [row place sets] .start).threads := rfl
  rw [matchFront?, run_row threads_eq]
  split <;> simp

end Rows

/-- The pattern of an escaped word is the row of its characters. -/
theorem parse_escape_row (ignoreCase : Bool) (word : Text) :
    parse? ignoreCase (escape word) = some (row 0 (word.map (literal ignoreCase))) := by
  have parts_eq : (word.map fun c => Expression.char (literal ignoreCase c)).flatMap
      Expression.parts = (word.map (literal ignoreCase)).map .char := by
    induction word with
    | nil => rfl
    | cons c word ih => rw [List.map_cons, List.flatMap_cons, ih]; rfl
  rw [parse_escape, Expression.sequence, parts_eq, Expression.toPattern, build_ofParts_chars]

end Pattern

/-! ## Agreement up to case -/

/-- Two texts have the same number of characters, and their characters agree up to case. -/
def Text.AgreeUpToCase (text word : Text) : Prop :=
  List.Forall₂ (fun c d => simpleFold c = simpleFold d) text word

instance (text word : Text) : Decidable (text.AgreeUpToCase word) :=
  inferInstanceAs (Decidable (List.Forall₂ _ _ _))

/-- The pattern of a word matches the leading characters that agree with it. -/
theorem Pattern.matchFront_word_eq_some_iff {word text : Text} {length : Nat} :
    (row 0 (word.map (literal true))).matchFront? text = some length ↔
      length = word.length ∧ Text.AgreeUpToCase (text.take length) word := by
  have admits_iff : admits (word.map (literal true)) text = true ↔
      Text.AgreeUpToCase (text.take word.length) word := by
    rw [admits_eq_true_iff, List.length_map, List.forall₂_map_right_iff]
    simp only [literal, if_true, CharSet.contains_folded_single]
    rfl
  rw [matchFront_row, List.length_map]
  split
  · next admitted =>
      constructor
      · rintro ⟨⟩
        exact ⟨rfl, admits_iff.mp admitted⟩
      · rintro ⟨rfl, _⟩
        rfl
  · next refused =>
      simp only [reduceCtorEq, false_iff]
      rintro ⟨rfl, agree⟩
      exact refused (admits_iff.mpr agree)

/-! ## Reading words -/

namespace Scanner

/-- The text behind the cursor begins with a text that agrees with the word up to case. -/
def ShowsWord (scanner : Scanner) (word : Text) : Prop :=
  ∃ taken behind, scanner.rest = taken ++ behind ∧ taken.AgreeUpToCase word

/-- The text behind the cursor shows a word exactly if its pattern matches there, and what is
matched has as many characters as the word. -/
theorem showsWord_iff {scanner : Scanner} {word : Text} :
    scanner.ShowsWord word ↔
      (Pattern.row 0 (word.map (Pattern.literal true))).matchFront? scanner.rest =
        some word.length := by
  rw [Pattern.matchFront_word_eq_some_iff]
  constructor
  · rintro ⟨taken, behind, split, agree⟩
    refine ⟨rfl, ?_⟩
    rw [split, ← List.Forall₂.length_eq agree, List.take_left]
    exact agree
  · rintro ⟨_, agree⟩
    exact ⟨_, _, (List.take_append_drop word.length scanner.rest).symm, agree⟩

theorem matchFront_eq_none_of_not_showsWord {scanner : Scanner} {word : Text}
    (absent : ¬scanner.ShowsWord word) :
    (Pattern.row 0 (word.map (Pattern.literal true))).matchFront? scanner.rest = none := by
  refine Option.eq_none_iff_forall_ne_some.mpr fun length matched => absent ?_
  rw [showsWord_iff, ← (Pattern.matchFront_word_eq_some_iff.mp matched).1, matched]

theorem readWord_answer (scanner : Scanner) (word : Text) :
    (scanner.readWord word).1 =
      .ok ((Pattern.row 0 (word.map (Pattern.literal true))).matchFront? scanner.rest).isSome := by
  have answer_eq := scanner.trim_answer (Pattern.parse_escape_row true word)
  change (scanner.trim (Pattern.escape word) true).1.map (·.isSome) = _
  rw [answer_eq]
  simp [Except.map]

theorem rest_readWord (scanner : Scanner) (word : Text) :
    (scanner.readWord word).2.rest = scanner.rest.drop
      (((Pattern.row 0 (word.map (Pattern.literal true))).matchFront? scanner.rest).getD 0) :=
  scanner.rest_trim (Pattern.parse_escape_row true word)

theorem onlyMoved_readWord (scanner : Scanner) (word : Text) :
    scanner.OnlyMoved (scanner.readWord word).2 :=
  scanner.onlyMoved_trim (Pattern.parse_escape_row true word)

/-- A word that stands at the cursor is taken. -/
theorem readWord_of_shown {scanner : Scanner} {word taken behind : Text}
    (split : scanner.rest = taken ++ behind) (agree : taken.AgreeUpToCase word) :
    (scanner.readWord word).1 = .ok true ∧ Takes taken scanner (scanner.readWord word).2 := by
  have matched := showsWord_iff.mp ⟨taken, behind, split, agree⟩
  constructor
  · rw [readWord_answer, matched, Option.isSome_some]
  · apply (scanner.onlyMoved_readWord word).takes
    rw [rest_readWord, matched, Option.getD_some, ← List.Forall₂.length_eq agree, split,
      List.drop_left]

/-- Where a word does not stand at the cursor, nothing is taken. -/
theorem readWord_of_not_shown {scanner : Scanner} {word : Text}
    (absent : ¬scanner.ShowsWord word) :
    (scanner.readWord word).1 = .ok false ∧ Takes [] scanner (scanner.readWord word).2 := by
  have unmatched := matchFront_eq_none_of_not_showsWord absent
  constructor
  · rw [readWord_answer, unmatched, Option.isSome_none]
  · apply (scanner.onlyMoved_readWord word).takes
    rw [rest_readWord, unmatched, Option.getD_none, List.drop_zero, List.nil_append]

/-- A word is read literally, letters in either case. -/
structure ReadsWord (scanner : Scanner) (word : Text) : Prop where
  /-- Reading it does not fail. -/
  answers : ∃ found, (scanner.readWord word).1 = .ok found
  /-- It is found exactly where the text behind the cursor begins with as many characters, which
  agree with its own up to case. -/
  found_iff : (scanner.readWord word).1 = .ok true ↔
    ∃ taken behind, scanner.rest = taken ++ behind ∧ taken.AgreeUpToCase word
  /-- These characters are what is taken, in their own size. -/
  found_takes {taken behind : Text} (split : scanner.rest = taken ++ behind)
    (agree : taken.AgreeUpToCase word) : Takes taken scanner (scanner.readWord word).2
  /-- Otherwise nothing is taken. -/
  missed_takes (missed : (scanner.readWord word).1 = .ok false) :
    Takes [] scanner (scanner.readWord word).2
  /-- Source, expansions and macros stay as they are. -/
  unchanged : scanner.OnlyMoved (scanner.readWord word).2

/-- Whatever the word and the text behind the cursor, the word is read literally. -/
theorem reads_words (scanner : Scanner) (word : Text) : scanner.ReadsWord word := by
  by_cases shown : scanner.ShowsWord word
  · obtain ⟨taken, behind, split, agree⟩ := shown
    have found := (readWord_of_shown split agree).1
    exact {
      answers := ⟨true, found⟩
      found_iff := iff_of_true found ⟨taken, behind, split, agree⟩
      found_takes := fun split agree => (readWord_of_shown split agree).2
      missed_takes := fun missed => by
        rw [found] at missed
        cases missed
      unchanged := scanner.onlyMoved_readWord word }
  · obtain ⟨missed, nothing⟩ := readWord_of_not_shown shown
    exact {
      answers := ⟨false, missed⟩
      found_iff := iff_of_false (by rw [missed]; simp) shown
      found_takes := fun split agree => absurd ⟨_, _, split, agree⟩ shown
      missed_takes := fun _ => nothing
      unchanged := scanner.onlyMoved_readWord word }

/-- The Kelvin sign is read as the letter, and is three bytes long. -/
example : Text.AgreeUpToCase ['\u212A'] ['k'] ∧ Text.size ['\u212A'] = 3 ∧ Text.size ['k'] = 1 := by
  decide +kernel

end Scanner
end MmlScan
