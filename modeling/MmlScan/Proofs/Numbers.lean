import MmlScan.Proofs.Numeral
import MmlScan.Proofs.Trimming

/-!
# Numbers

A number is a run of digits, behind a minus sign if there can be one.  A reader takes the run as far
as it goes, whatever its value, and then answers the value or reports that it is out of bounds.  So
a number that is written out is read back wherever no further digit stands behind it.
-/

namespace MmlScan

/-! ## Patterns of numbers -/

namespace Pattern

open Text

/-- The decimal digits. -/
def digits : CharSet :=
  .range '0' '9'

/-- The hexadecimal digits. -/
def hexDigits : CharSet :=
  .union (.range '0' '9') (.union (.range 'A' 'F') (.range 'a' 'f'))

/-- A run of decimal digits, behind a minus sign or not. -/
def signedRun : Pattern :=
  .seq (.alt 1 (.seq (.char 0 (.single '-')) .empty) .empty) (many 2 3 digits)

/-- Two hexadecimal digits. -/
def hexPair : Pattern :=
  .seq (.char 0 hexDigits) (.seq (.char 1 hexDigits) .empty)

theorem contains_digits_eq : digits.contains = isDigitIn 10 :=
  funext fun c => (isDigitIn_ten c).symm

theorem contains_hexDigits_eq : hexDigits.contains = isDigitIn 16 :=
  funext fun c => (isDigitIn_sixteen c).symm

theorem runLength_of_starts {radix : Nat} {text : Text} (starts : StartsWithDigit radix text) :
    runLength? (isDigitIn radix) text = some (text.takeWhile (isDigitIn radix)).length := by
  obtain ⟨c, first, digit⟩ := starts
  obtain ⟨rest, rfl⟩ := List.head?_eq_some_iff.mp first
  rw [runLength?, if_neg]
  simp [digit]

theorem runLength_of_not_starts {radix : Nat} {text : Text}
    (nothing : ¬ StartsWithDigit radix text) : runLength? (isDigitIn radix) text = none := by
  rw [runLength?, if_pos (takeWhile_of_not_starts nothing)]

/-- The threads at the front of a text: a minus sign, and behind it a run without one. -/
def signedThreads : List Thread :=
  [.read 0 (.single '-') [.empty, many 2 3 digits], manyThread 2 3 digits]

theorem threads_exploreAll_signedRun (before after : Option Char) :
    (exploreAll 0 before after [signedRun] .start).threads = signedThreads := by
  simp [exploreAll, explore, signedRun, many, Frontier.meet, Frontier.push, Frontier.start,
    Frontier.threads, signedThreads, manyThread]

/-- Behind a sign only a run of digits can follow. -/
theorem foldl_advance_sign (after : Option Char) :
    (signedThreads.foldl (advance '-' after) .start).threads = [manyThread 2 3 digits] := by
  have is_sign : (CharSet.single '-').contains '-' = true := by decide
  have no_digit : digits.contains '-' = false := by decide
  simp [signedThreads, manyThread, advance, is_sign, no_digit, exploreAll, explore, many,
    Frontier.meet, Frontier.push, Frontier.start, Frontier.threads]

theorem foldl_advance_unsigned {c : Char} (no_sign : c ≠ '-') (after : Option Char) :
    signedThreads.foldl (advance c after) .start =
      advance c after .start (manyThread 2 3 digits) := by
  have other : (CharSet.single '-').contains c = false := by
    rw [← Bool.not_eq_true, CharSet.single, CharSet.contains, Bool.and_eq_true, decide_eq_true_eq,
      decide_eq_true_eq]
    exact fun between => no_sign (Char.le_antisymm between.2 between.1)
  rw [signedThreads, List.foldl_cons, advance_of_not_contains other, List.foldl_cons,
    List.foldl_nil]

/-- Length of the signed run at the front of a text. -/
def signedLength? : Text → Option Nat
  | '-' :: rest => (runLength? (isDigitIn 10) rest).map (· + 1)
  | text => runLength? (isDigitIn 10) text

theorem matchFront_signedRun (text : Text) : signedRun.matchFront? text = signedLength? text := by
  cases text with
  | nil => rfl
  | cons c rest =>
      have pending : ∀ thread ∈ signedThreads, thread.accepted? = none := by
        simp [signedThreads, manyThread, Thread.accepted?]
      have threads_eq :
          Search.threadsAt ⟨signedRun, true⟩ 0 none (some c) none .start = signedThreads :=
        threads_exploreAll_signedRun none (some c)
      rw [matchFront?, Search.run_cons_of_pending threads_eq pending]
      by_cases signed : c = '-'
      · subst signed
        have threads_behind : Search.threadsAt ⟨signedRun, true⟩ 1 (some '-') rest.head? none _ =
            [manyThread 2 3 digits] :=
          (Search.threadsAt_anchored 0 _ _ _ _).trans (foldl_advance_sign rest.head?)
        rw [run_many (by decide) threads_behind, contains_digits_eq, signedLength?, Option.map_map]
        exact congrArg (Option.map · _) (funext fun length => Nat.add_comm _ _)
      · rw [foldl_advance_unsigned signed, run_advance_many (by decide), contains_digits_eq,
          signedLength?, Option.map_map]
        · cases runLength? (isDigitIn 10) (c :: rest) with
          | none => rfl
          | some length => exact congrArg some (Nat.zero_add length)
        · exact fun _ same => signed (List.head_eq_of_cons_eq same)

/-- Length of the pair at the front of a text. -/
def pairLength? : Text → Option Nat
  | first :: second :: _ => if isDigitIn 16 first && isDigitIn 16 second then some 2 else none
  | _ => none

theorem matchFront_hexPair (text : Text) : hexPair.matchFront? text = pairLength? text := by
  have first_eq (after : Option Char) :
      Search.threadsAt ⟨hexPair, true⟩ 0 none after none .start =
        [.read 0 hexDigits [.seq (.char 1 hexDigits) .empty]] := by
    simp [Search.threadsAt, exploreAll, explore, hexPair, Frontier.meet, Frontier.push,
      Frontier.start, Frontier.threads]
  have second_eq (before after : Option Char) :
      (exploreAll 0 before after [.seq (.char 1 hexDigits) .empty] .start).threads =
        [.read 0 hexDigits [.empty]] := by
    simp [exploreAll, explore, Frontier.meet, Frontier.push, Frontier.start, Frontier.threads]
  have last_eq (before after : Option Char) :
      (exploreAll 0 before after [.empty] .start).threads = [.accept 0] := by
    simp [exploreAll, explore, Frontier.push, Frontier.start, Frontier.threads]
  rw [matchFront?]
  rcases text with _ | ⟨first, _ | ⟨second, rest⟩⟩
  · rfl
  · rw [Search.run_cons_read (first_eq (some first)), contains_hexDigits_eq]
    split
    · rw [Search.run, Search.threadsAt_anchored, second_eq]
      rfl
    · rfl
  · have threads_behind : Search.threadsAt ⟨hexPair, true⟩ 1 (some first) (some second) none _ =
        [.read 0 hexDigits [.empty]] :=
      (Search.threadsAt_anchored 0 _ _ _ _).trans (second_eq (some first) (some second))
    rw [Search.run_cons_read (first_eq (some first)), List.head?_cons,
      Search.run_cons_read threads_behind,
      Search.run_accepted 1 0 _ _ _ (last_eq _ _), contains_hexDigits_eq, pairLength?]
    cases isDigitIn 16 first <;> cases isDigitIn 16 second <;> rfl

/-- A pattern finds a number at the front of a text, with all of its digits. -/
structure FindsNumbers (pattern : Pattern) (signed : Bool) (radix : Nat) : Prop where
  found {whole text : Text} {negative : Bool}
    (number : ShowsNumber signed radix whole negative text) :
    pattern.matchFront? whole =
      some (sign negative ++ text.takeWhile (isDigitIn radix)).length
  not_found {whole : Text}
    (nothing : ∀ negative text, ¬ ShowsNumber signed radix whole negative text) :
    pattern.matchFront? whole = none

theorem findsNumbers_many {first further radix : Nat} {set : CharSet} (different : first ≠ further)
    (contains_eq : set.contains = isDigitIn radix) :
    (many first further set).FindsNumbers false radix where
  found {whole text negative} number := by
    cases negative with
    | true => cases number.allowed rfl
    | false =>
        have whole_eq : whole = text := number.whole_eq
        rw [matchFront_many different, contains_eq, whole_eq, runLength_of_starts number.starts]
        rfl
  not_found {whole} nothing := by
    have no_digit : ¬ StartsWithDigit radix whole := fun starts =>
      nothing false whole ⟨rfl, fun signed => absurd signed Bool.false_ne_true, starts⟩
    rw [matchFront_many different, contains_eq, runLength_of_not_starts no_digit]

theorem findsNumbers_signedRun : signedRun.FindsNumbers true 10 where
  found {whole text negative} number := by
    rw [matchFront_signedRun, number.whole_eq]
    cases negative with
    | true =>
        change (runLength? (isDigitIn 10) text).map (· + 1) = _
        rw [runLength_of_starts number.starts]
        rfl
    | false =>
        have run_eq := runLength_of_starts number.starts
        obtain ⟨c, first, digit⟩ := number.starts
        obtain ⟨rest, rfl⟩ := List.head?_eq_some_iff.mp first
        change signedLength? (c :: rest) = _
        rw [signedLength?]
        · exact run_eq
        · exact fun _ same => ne_sign_of_isDigitIn digit (List.head_eq_of_cons_eq same)
  not_found {whole} nothing := by
    have no_digit : ¬ StartsWithDigit 10 whole := fun starts =>
      nothing false whole ⟨rfl, fun _ => rfl, starts⟩
    rw [matchFront_signedRun, signedLength?.eq_def]
    split
    · next rest =>
        have no_digit_behind : ¬ StartsWithDigit 10 rest := fun starts =>
          nothing true rest ⟨rfl, fun _ => rfl, starts⟩
        rw [runLength_of_not_starts no_digit_behind]
        rfl
    · exact runLength_of_not_starts no_digit

end Pattern

/-! ## Reading numbers -/

namespace Scanner

open Text

/-- The value of a number that a reader has taken. -/
theorem NumberKind.value_of_number {kind : NumberKind} {signed negative : Bool} {whole text : Text}
    (number : ShowsNumber signed kind.radix whole negative text) :
    kind.value (sign negative ++ text.takeWhile (isDigitIn kind.radix)) =
      signedValue negative (positional kind.radix (text.takeWhile (isDigitIn kind.radix))) := by
  cases negative with
  | true => exact congrArg (fun n : Nat => -(n : Int)) (numeral_eq_positional _ _)
  | false =>
      obtain ⟨c, first, digit⟩ := number.starts
      obtain ⟨rest, rfl⟩ := List.head?_eq_some_iff.mp first
      rw [List.takeWhile_cons_of_pos digit]
      change kind.value (c :: _) = _
      rw [NumberKind.value]
      · exact congrArg Nat.cast (numeral_eq_positional _ _)
      · exact fun _ same => ne_sign_of_isDigitIn digit (List.head_eq_of_cons_eq same)

/-- A reader takes a text off, and answers its value if that fits, and else a report that points at
the text. -/
structure ReadsAs (scanner : Scanner) (kind : NumberKind) (taken behind : Text) (value : Int)
    (fits : Int → Prop) : Prop where
  moved : scanner.OnlyMoved (scanner.readNumber kind).2
  rest_eq : (scanner.readNumber kind).2.rest = behind
  offset_eq : (scanner.readNumber kind).2.offset = scanner.offset + Text.size taken
  value_iff : (scanner.readNumber kind).1 = .ok (some value) ↔ fits value
  too_large (outside : ¬ fits value) :
    ∃ report, (scanner.readNumber kind).1 = .error report ∧ report.kind = .malformed ∧
      report.message = "number is too large" ∧
      report.span = some ⟨scanner.offset, scanner.offset + Text.size taken⟩

section Matching

variable {scanner : Scanner} {kind : NumberKind} {pattern : Pattern}

theorem readNumber_of_no_match (parsed : Pattern.parse? false kind.pattern = some pattern)
    (unmatched : pattern.matchFront? scanner.rest = none) :
    (scanner.readNumber kind).1 = .ok none ∧ scanner.OnlyMoved (scanner.readNumber kind).2 ∧
      (scanner.readNumber kind).2.rest = scanner.rest := by
  have answer_eq := scanner.trim_answer parsed
  have rest_eq := scanner.rest_trim parsed
  rw [unmatched] at answer_eq rest_eq
  have trimmed : scanner.trim kind.pattern false = (.ok none, _) := Prod.ext answer_eq rfl
  refine ⟨?_, ?_, ?_⟩
  · rw [readNumber, trimmed]
  · rw [readNumber_snd]
    exact scanner.onlyMoved_trim parsed
  · rw [readNumber_snd]
    exact rest_eq

/-- The report on a number out of bounds points at the number. -/
theorem outOfRange_of_takes {after : Scanner} {taken : Text} (takes : Takes taken scanner after)
    (cause : String) :
    (after.outOfRange taken cause).kind = .malformed ∧
      (after.outOfRange taken cause).message = "number is too large" ∧
      (after.outOfRange taken cause).span =
        some ⟨scanner.offset, scanner.offset + Text.size taken⟩ := by
  refine ⟨rfl, rfl, ?_⟩
  change some (⟨after.offset - Text.size taken, after.offset⟩ : Span) = _
  rw [takes.offset_eq, Nat.add_sub_cancel]

/-- The value that is taken is answered if it is within the bounds, and reported else. -/
theorem readNumber_of_taken {after : Scanner} {taken : Text}
    (trimmed : scanner.trim kind.pattern false = (.ok (some taken), after)) :
    ((scanner.readNumber kind).1 = .ok (some (kind.value taken)) ∧
        kind.least ≤ kind.value taken ∧ kind.value taken ≤ kind.greatest) ∨
      (∃ cause, (scanner.readNumber kind).1 = .error (after.outOfRange taken cause)) ∧
        ¬ (kind.least ≤ kind.value taken ∧ kind.value taken ≤ kind.greatest) := by
  rw [readNumber, trimmed]
  dsimp only
  split
  · next below =>
      exact .inr ⟨⟨_, rfl⟩, fun inside => absurd below (Int.not_lt.mpr inside.1)⟩
  · next above =>
      split
      · next beyond =>
          exact .inr ⟨⟨_, rfl⟩, fun inside => absurd beyond (Int.not_lt.mpr inside.2)⟩
      · next within => exact .inl ⟨rfl, Int.not_lt.mp above, Int.not_lt.mp within⟩

theorem readNumber_of_match (parsed : Pattern.parse? false kind.pattern = some pattern)
    {taken behind : Text} (rest_eq : scanner.rest = taken ++ behind)
    (matched : pattern.matchFront? scanner.rest = some taken.length) :
    scanner.ReadsAs kind taken behind (kind.value taken)
      fun value => kind.least ≤ value ∧ value ≤ kind.greatest := by
  have answer_eq := scanner.trim_answer parsed
  have behind_eq := scanner.rest_trim parsed
  have moved := scanner.onlyMoved_trim parsed
  rw [matched, Option.map_some, rest_eq, List.take_left] at answer_eq
  rw [matched, Option.getD_some, rest_eq, List.drop_left] at behind_eq
  have trimmed : scanner.trim kind.pattern false = (.ok (some taken), _) := Prod.ext answer_eq rfl
  have takes : Takes taken scanner (scanner.trim kind.pattern false).2 :=
    moved.takes (by rw [behind_eq, rest_eq])
  have outcome := readNumber_of_taken trimmed
  constructor
  · rw [readNumber_snd]
    exact moved
  · rw [readNumber_snd]
    exact behind_eq
  · rw [readNumber_snd]
    exact takes.offset_eq
  · rcases outcome with ⟨answer, inside⟩ | ⟨⟨cause, failure⟩, outside⟩
    · exact iff_of_true answer inside
    · refine iff_of_false (fun answer => ?_) outside
      rw [failure] at answer
      cases answer
  · intro outside
    rcases outcome with ⟨answer, inside⟩ | ⟨⟨cause, failure⟩, _⟩
    · exact absurd inside outside
    · exact ⟨_, failure, outOfRange_of_takes takes cause⟩

end Matching

/-- How the numbers of a kind are written, and which values fit. -/
structure NumberKind.Format (kind : NumberKind) (signed : Bool) (radix : Nat) (fits : Int → Prop) :
    Prop where
  finds : ∃ pattern, Pattern.parse? false kind.pattern = some pattern ∧
    pattern.FindsNumbers signed radix
  radix_eq : kind.radix = radix
  fits_iff {negative : Bool} (allowed : negative = true → signed = true) (magnitude : Nat) :
    (kind.least ≤ signedValue negative magnitude ∧ signedValue negative magnitude ≤ kind.greatest) ↔
      fits (signedValue negative magnitude)

/-- A reader takes a number at the cursor, with all of its digits, and nothing else. -/
structure ReadsRuns (scanner : Scanner) (kind : NumberKind) (signed : Bool) (radix : Nat)
    (fits : Int → Prop) : Prop where
  /-- There is an answer or a report exactly if there is a number at the cursor. -/
  none_iff : (scanner.readNumber kind).1 = .ok none ↔
    ∀ negative text, ¬ ShowsNumber signed radix scanner.rest negative text
  /-- The cursor stays where there is none. -/
  stays (nothing : (scanner.readNumber kind).1 = .ok none) :
    scanner.OnlyMoved (scanner.readNumber kind).2 ∧
      (scanner.readNumber kind).2.rest = scanner.rest ∧
      (scanner.readNumber kind).2.offset = scanner.offset
  /-- All digits are taken, whether the value fits or not. -/
  reads {negative : Bool} {text : Text}
    (number : ShowsNumber signed radix scanner.rest negative text) :
    scanner.ReadsAs kind (sign negative ++ text.takeWhile (isDigitIn radix))
      (text.dropWhile (isDigitIn radix))
      (signedValue negative (positional radix (text.takeWhile (isDigitIn radix)))) fits

section Runs

variable {scanner : Scanner} {kind : NumberKind} {signed : Bool} {radix : Nat} {fits : Int → Prop}

theorem ReadsAs.ne_none {taken behind : Text} {value : Int}
    (reads : scanner.ReadsAs kind taken behind value fits) :
    (scanner.readNumber kind).1 ≠ .ok none := by
  intro nothing
  by_cases inside : fits value
  · rw [reads.value_iff.mpr inside] at nothing
    cases nothing
  · obtain ⟨report, failure, _⟩ := reads.too_large inside
    rw [failure] at nothing
    cases nothing

theorem NumberKind.Format.reads (format : kind.Format signed radix fits) {negative : Bool}
    {text : Text} (number : ShowsNumber signed radix scanner.rest negative text) :
    scanner.ReadsAs kind (sign negative ++ text.takeWhile (isDigitIn radix))
      (text.dropWhile (isDigitIn radix))
      (signedValue negative (positional radix (text.takeWhile (isDigitIn radix)))) fits := by
  obtain ⟨⟨pattern, parsed, finds⟩, rfl, fits_iff⟩ := format
  have rest_eq : scanner.rest = sign negative ++ text.takeWhile (isDigitIn kind.radix) ++
      text.dropWhile (isDigitIn kind.radix) := by
    rw [List.append_assoc, List.takeWhile_append_dropWhile]
    exact number.whole_eq
  have reads := readNumber_of_match parsed rest_eq (finds.found number)
  rw [NumberKind.value_of_number number] at reads
  have within := fits_iff number.allowed
    (positional kind.radix (text.takeWhile (isDigitIn kind.radix)))
  exact ⟨reads.moved, reads.rest_eq, reads.offset_eq, reads.value_iff.trans within,
    fun outside => reads.too_large fun inside => outside (within.mp inside)⟩

theorem NumberKind.Format.readsRuns (format : kind.Format signed radix fits) (scanner : Scanner) :
    scanner.ReadsRuns kind signed radix fits := by
  obtain ⟨pattern, parsed, finds⟩ := format.finds
  have none_iff : (scanner.readNumber kind).1 = .ok none ↔
      ∀ negative text, ¬ ShowsNumber signed radix scanner.rest negative text := by
    constructor
    · intro nothing negative text number
      exact (format.reads number).ne_none nothing
    · intro nothing
      exact (readNumber_of_no_match parsed (finds.not_found nothing)).1
  refine ⟨none_iff, fun nothing => ?_, format.reads⟩
  obtain ⟨_, moved, rest_eq⟩ :=
    readNumber_of_no_match parsed (finds.not_found (none_iff.mp nothing))
  exact ⟨moved, rest_eq, moved.offset_eq rest_eq⟩

end Runs

theorem format_unsigned : NumberKind.unsigned.Format false 10 (· ≤ 2147483647) where
  finds := ⟨Pattern.many 0 1 Pattern.digits, rfl,
    Pattern.findsNumbers_many (by decide) Pattern.contains_digits_eq⟩
  radix_eq := rfl
  fits_iff {negative} allowed magnitude := by
    cases negative with
    | true => cases allowed rfl
    | false =>
        change -2147483648 ≤ (magnitude : Int) ∧ (magnitude : Int) ≤ 2147483647 ↔
          (magnitude : Int) ≤ 2147483647
        omega

theorem format_signed :
    NumberKind.signed.Format true 10 fun value => -2147483648 ≤ value ∧ value ≤ 2147483647 where
  finds := ⟨Pattern.signedRun, rfl, Pattern.findsNumbers_signedRun⟩
  radix_eq := rfl
  fits_iff _ _ := Iff.rfl

theorem format_hex : NumberKind.hex.Format false 16 (· ≤ 4294967295) where
  finds := ⟨Pattern.many 0 1 Pattern.hexDigits, rfl,
    Pattern.findsNumbers_many (by decide) Pattern.contains_hexDigits_eq⟩
  radix_eq := rfl
  fits_iff {negative} allowed magnitude := by
    cases negative with
    | true => cases allowed rfl
    | false =>
        change 0 ≤ (magnitude : Int) ∧ (magnitude : Int) ≤ 4294967295 ↔
          (magnitude : Int) ≤ 4294967295
        omega

/-! ## Pairs of digits -/

/-- Two hexadecimal digits stand at the cursor, in front of some text. -/
structure ShowsPair (scanner : Scanner) (first second : Char) (behind : Text) : Prop where
  rest_eq : scanner.rest = first :: second :: behind
  first_digit : isDigitIn 16 first = true
  second_digit : isDigitIn 16 second = true

section Pairs

variable {scanner : Scanner} {first second : Char} {behind : Text}

theorem ShowsPair.reads (pair : scanner.ShowsPair first second behind) :
    scanner.ReadsAs .hexByte [first, second] behind (positional 16 [first, second])
      fun value => 0 ≤ value ∧ value ≤ 255 := by
  have matched : Pattern.hexPair.matchFront? scanner.rest = some [first, second].length := by
    rw [Pattern.matchFront_hexPair, pair.rest_eq, Pattern.pairLength?, pair.first_digit,
      pair.second_digit]
    rfl
  have run_eq : [first, second].takeWhile (isDigitIn 16) = [first, second] := by
    simp [pair.first_digit, pair.second_digit]
  have number : ShowsNumber false NumberKind.hexByte.radix [first, second] false [first, second] :=
    ⟨rfl, id, first, rfl, pair.first_digit⟩
  have value_eq : NumberKind.hexByte.value ([first, second].takeWhile (isDigitIn 16)) =
      positional 16 ([first, second].takeWhile (isDigitIn 16)) :=
    NumberKind.value_of_number number
  rw [run_eq] at value_eq
  rw [← value_eq]
  exact readNumber_of_match rfl pair.rest_eq matched

/-- Two hexadecimal digits are a byte. -/
theorem ShowsPair.value_le (pair : scanner.ShowsPair first second behind) :
    positional 16 [first, second] ≤ 255 := by
  have all_digits : ∀ c ∈ [first, second], isDigitIn 16 c = true := by
    simp [pair.first_digit, pair.second_digit]
  have bound := positional_lt (by decide) all_digits
  rw [List.length_cons, List.length_singleton] at bound
  omega

theorem ShowsPair.size_eq (pair : scanner.ShowsPair first second behind) :
    Text.size [first, second] = 2 := by
  rw [Text.size_cons, Text.size_cons, utf8Size_of_isDigitIn pair.first_digit,
    utf8Size_of_isDigitIn pair.second_digit]
  rfl

theorem readNumber_of_no_pair (nothing : ∀ first second behind,
    ¬ scanner.ShowsPair first second behind) :
    (scanner.readNumber .hexByte).1 = .ok none ∧
      scanner.OnlyMoved (scanner.readNumber .hexByte).2 ∧
      (scanner.readNumber .hexByte).2.rest = scanner.rest := by
  have unmatched : Pattern.hexPair.matchFront? scanner.rest = none := by
    rw [Pattern.matchFront_hexPair]
    unfold Pattern.pairLength?
    split
    · next first second behind rest_eq =>
        rw [if_neg]
        intro digits
        rw [Bool.and_eq_true] at digits
        exact nothing first second behind ⟨rest_eq, digits.1, digits.2⟩
    · rfl
  exact readNumber_of_no_match rfl unmatched

end Pairs

/-! ## Numbers that are written out -/

section Written

variable {scanner : Scanner} {kind : NumberKind} {signed : Bool} {radix : Nat} {fits : Int → Prop}

/-- A written number is read as far as it is written, where no further digit stands behind it. -/
theorem ReadsRuns.reads_written (reads : scanner.ReadsRuns kind signed radix fits) {negative : Bool}
    {digits behind : Text} (allowed : negative = true → signed = true) (nonempty : digits ≠ [])
    (all_digits : ∀ c ∈ digits, isDigitIn radix c = true)
    (stops : ¬ StartsWithDigit radix behind)
    (rest_eq : scanner.rest = sign negative ++ (digits ++ behind)) :
    scanner.ReadsAs kind (sign negative ++ digits) behind
      (signedValue negative (positional radix digits)) fits := by
  have run_eq : (digits ++ behind).takeWhile (isDigitIn radix) = digits := by
    rw [List.takeWhile_append_of_pos all_digits, takeWhile_of_not_starts stops, List.append_nil]
  have behind_eq : (digits ++ behind).dropWhile (isDigitIn radix) = behind := by
    rw [List.dropWhile_append_of_pos all_digits, dropWhile_of_not_starts stops]
  have starts : StartsWithDigit radix (digits ++ behind) := by
    obtain ⟨c, later, rfl⟩ := List.exists_cons_of_ne_nil nonempty
    exact ⟨c, rfl, all_digits c List.mem_cons_self⟩
  have whole := reads.reads ⟨rest_eq, allowed, starts⟩
  rwa [run_eq, behind_eq] at whole

/-- So is a number that is written out in the radix. -/
theorem ReadsRuns.reads_toDigits (reads : scanner.ReadsRuns kind signed radix fits)
    {negative : Bool} {behind : Text} {shape : Char → Char}
    (allowed : negative = true → signed = true) (two_le : 2 ≤ radix) (le_sixteen : radix ≤ 16)
    (keeps : KeepsDigits shape) (magnitude : Nat) (stops : ¬ StartsWithDigit radix behind)
    (rest_eq : scanner.rest =
      sign negative ++ ((Nat.toDigits radix magnitude).map shape ++ behind)) :
    scanner.ReadsAs kind (sign negative ++ (Nat.toDigits radix magnitude).map shape) behind
      (signedValue negative magnitude) fits := by
  have nonempty : (Nat.toDigits radix magnitude).map shape ≠ [] := by simp
  have all_digits := isDigitIn_of_mem_toDigits two_le le_sixteen keeps magnitude
  have value_eq : positional radix ((Nat.toDigits radix magnitude).map shape) = magnitude := by
    rw [← numeral_eq_positional, numeral_toDigits two_le le_sixteen keeps]
  have whole := reads.reads_written allowed nonempty all_digits stops rest_eq
  rwa [value_eq] at whole

end Written

/-! ## All readers of numbers -/

/-- Numbers are read by what is written at the cursor, within the bounds of their kind. -/
structure ReadsNumbers (scanner : Scanner) : Prop where
  unsigned : scanner.ReadsRuns .unsigned false 10 (· ≤ 2147483647)
  signed : scanner.ReadsRuns .signed true 10 fun value => -2147483648 ≤ value ∧ value ≤ 2147483647
  hex : scanner.ReadsRuns .hex false 16 (· ≤ 4294967295)
  /-- Two hexadecimal digits are taken, and no more; they always fit. -/
  pair {first second : Char} {behind : Text} (pair : scanner.ShowsPair first second behind) :
    (scanner.readNumber .hexByte).1 = .ok (some (positional 16 [first, second])) ∧
      scanner.OnlyMoved (scanner.readNumber .hexByte).2 ∧
      (scanner.readNumber .hexByte).2.rest = behind ∧
      (scanner.readNumber .hexByte).2.offset = scanner.offset + 2
  /-- Else nothing is taken. -/
  no_pair (nothing : ∀ first second behind, ¬ scanner.ShowsPair first second behind) :
    (scanner.readNumber .hexByte).1 = .ok none ∧
      scanner.OnlyMoved (scanner.readNumber .hexByte).2 ∧
      (scanner.readNumber .hexByte).2.rest = scanner.rest ∧
      (scanner.readNumber .hexByte).2.offset = scanner.offset
  /-- An integer of 32 bits is read back from its decimal form. -/
  decimal {number : Int} {behind : Text} (fits : -2147483648 ≤ number ∧ number ≤ 2147483647)
    (stops : ¬ StartsWithDigit 10 behind)
    (rest_eq : scanner.rest = (toString number).toList ++ behind) :
    (scanner.readNumber .signed).1 = .ok (some number) ∧
      (scanner.readNumber .signed).2.rest = behind
  /-- A natural number of 32 bits is read back from its hexadecimal form, with small letters or with
  capitals. -/
  hexadecimal {number : Nat} {written behind : Text} (fits : number ≤ 4294967295)
    (form : written = Nat.toDigits 16 number ∨ written = (Nat.toDigits 16 number).map Char.toUpper)
    (stops : ¬ StartsWithDigit 16 behind) (rest_eq : scanner.rest = written ++ behind) :
    (scanner.readNumber .hex).1 = .ok (some number) ∧
      (scanner.readNumber .hex).2.rest = behind

/-- Whatever stands at the cursor, the readers of numbers read what it says. -/
theorem reads_numbers (scanner : Scanner) : scanner.ReadsNumbers where
  unsigned := format_unsigned.readsRuns scanner
  signed := format_signed.readsRuns scanner
  hex := format_hex.readsRuns scanner
  pair {first second behind} pair := by
    have reads := pair.reads
    have least_le : (0 : Int) ≤ positional 16 [first, second] := Int.natCast_nonneg _
    have le_greatest : (positional 16 [first, second] : Int) ≤ 255 := Int.ofNat_le.mpr pair.value_le
    refine ⟨reads.value_iff.mpr ⟨least_le, le_greatest⟩, reads.moved, reads.rest_eq, ?_⟩
    rw [reads.offset_eq, pair.size_eq]
  no_pair nothing := by
    obtain ⟨answer_eq, moved, rest_eq⟩ := readNumber_of_no_pair nothing
    exact ⟨answer_eq, moved, rest_eq, moved.offset_eq rest_eq⟩
  decimal {number behind} fits stops rest_eq := by
    rw [toList_toString, List.append_assoc] at rest_eq
    have reads := (format_signed.readsRuns scanner).reads_toDigits (fun _ => rfl) (by decide)
      (by decide) keepsDigits_id number.natAbs stops rest_eq
    rw [signedValue_natAbs] at reads
    exact ⟨reads.value_iff.mpr fits, reads.rest_eq⟩
  hexadecimal {number written behind} fits form stops rest_eq := by
    have shaped : ∃ shape, KeepsDigits shape ∧ written = (Nat.toDigits 16 number).map shape := by
      rcases form with rfl | rfl
      · exact ⟨id, keepsDigits_id, (List.map_id _).symm⟩
      · exact ⟨Char.toUpper, keepsDigits_toUpper, rfl⟩
    obtain ⟨shape, keeps, rfl⟩ := shaped
    have no_sign : scanner.rest =
        sign false ++ ((Nat.toDigits 16 number).map shape ++ behind) := rest_eq
    have reads := (format_hex.readsRuns scanner).reads_toDigits id (by decide) (by decide) keeps
      number stops no_sign
    exact ⟨reads.value_iff.mpr (Int.ofNat_le.mpr fits), reads.rest_eq⟩

end Scanner
end MmlScan
