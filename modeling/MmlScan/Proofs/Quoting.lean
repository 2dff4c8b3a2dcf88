import MmlScan.Proofs.Directive

/-!
# Quoted strings

Between its quotes a string is a row of items: characters that stand for themselves, and characters
behind a backslash.  Every text begins with a row of items, and what stops the row is a quote, the
end of the text, or a backslash that ends it.  Only a quote completes a string, and then there is
one way to read it.
-/

namespace MmlScan

/-! ## Items -/

/-- One character of the body of a quoted string, as it is written. -/
inductive QuotedItem where
  | plain (c : Char) (no_quote : c ≠ '"') (no_escape : c ≠ '\\')
  | escaped (c : Char)

namespace QuotedItem

/-- The character that is meant. -/
def value : QuotedItem → Char
  | .plain c _ _ => c
  | .escaped c => c

/-- The written form of items, one after the other. -/
def write : List QuotedItem → Text
  | [] => []
  | .plain c _ _ :: items => c :: write items
  | .escaped c :: items => '\\' :: c :: write items

/-- Reading goes on behind the items. -/
theorem unquote_write (items : List QuotedItem) (tail : Text) :
    Scanner.unquote? (write items ++ tail) =
      (Scanner.unquote? tail).map fun (body, behind) => (items.map value ++ body, behind) := by
  induction items with
  | nil => simp [write]
  | cons item items ih =>
      cases item with
      | plain c no_quote no_escape =>
          rw [write, List.cons_append, Scanner.unquote_plain no_quote no_escape, ih, Option.map_map]
          rfl
      | escaped c =>
          rw [write, List.cons_append, List.cons_append, Scanner.unquote_escaped, ih,
            Option.map_map]
          rfl

/-- What is left where a string is not complete: nothing, or a backslash with nothing behind it. -/
def Unfinished (tail : Text) : Prop :=
  tail = [] ∨ tail = ['\\']

theorem unquote_of_unfinished {tail : Text} (unfinished : Unfinished tail) :
    Scanner.unquote? tail = none := by
  rcases unfinished with rfl | rfl <;> rfl

/-- Every text begins with a row of items, which goes on to a quote unless the text ends. -/
theorem exists_items (text : Text) :
    ∃ (items : List QuotedItem) (tail : Text), text = write items ++ tail ∧
      (Unfinished tail ∨ ∃ behind, tail = '"' :: behind) := by
  fun_induction Scanner.unquote? text with
  | case1 => exact ⟨[], [], rfl, .inl (.inl rfl)⟩
  | case2 behind => exact ⟨[], _, rfl, .inr ⟨behind, rfl⟩⟩
  | case3 => exact ⟨[], _, rfl, .inl (.inr rfl)⟩
  | case4 c rest ih =>
      obtain ⟨items, tail, rfl, stops⟩ := ih
      exact ⟨.escaped c :: items, tail, rfl, stops⟩
  | case5 c rest no_quote no_end no_escape ih =>
      have plain : c ≠ '\\' := Scanner.ne_escape no_end no_escape
      obtain ⟨items, tail, rfl, stops⟩ := ih
      exact ⟨.plain c no_quote plain :: items, tail, rfl, stops⟩

/-- A row of items in front of a quote is read in one way. -/
theorem write_injective {items others : List QuotedItem} {behind beyond : Text}
    (same : write items ++ '"' :: behind = write others ++ '"' :: beyond) :
    items = others ∧ behind = beyond := by
  induction items generalizing others with
  | nil =>
      rcases others with _ | ⟨⟨c, no_quote, no_escape⟩ | c, others⟩
      · exact ⟨rfl, List.tail_eq_of_cons_eq same⟩
      · exact absurd (List.head_eq_of_cons_eq same).symm no_quote
      · cases List.head_eq_of_cons_eq same
  | cons item items ih =>
      rcases item with ⟨c, no_quote, no_escape⟩ | c
      · rcases others with _ | ⟨⟨d, no_quote', no_escape'⟩ | d, others⟩
        · exact absurd (List.head_eq_of_cons_eq same) no_quote
        · obtain ⟨rfl, later⟩ := List.cons.inj same
          obtain ⟨rfl, rfl⟩ := ih later
          exact ⟨rfl, rfl⟩
        · exact absurd (List.head_eq_of_cons_eq same) no_escape
      · rcases others with _ | ⟨⟨d, no_quote, no_escape⟩ | d, others⟩
        · cases List.head_eq_of_cons_eq same
        · exact absurd (List.head_eq_of_cons_eq same).symm no_escape
        · obtain ⟨rfl, later⟩ := List.cons.inj (List.tail_eq_of_cons_eq same)
          obtain ⟨rfl, rfl⟩ := ih later
          exact ⟨rfl, rfl⟩

end QuotedItem

/-! ## Reading strings -/

namespace Scanner

open QuotedItem

/-- A complete string with the given items stands at the cursor, in front of some text. -/
def Quotes (scanner : Scanner) (items : List QuotedItem) (behind : Text) : Prop :=
  scanner.rest = '"' :: (write items ++ '"' :: behind)

variable {scanner : Scanner} {items others : List QuotedItem} {behind beyond tail : Text}

theorem Quotes.unique (first : scanner.Quotes items behind)
    (second : scanner.Quotes others beyond) : items = others ∧ behind = beyond :=
  write_injective (List.tail_eq_of_cons_eq (first.symm.trans second))

/-- There is no string at the cursor, or a complete one, or one that is not complete. -/
theorem string_cases (scanner : Scanner) :
    scanner.rest.head? ≠ some '"' ∨ (∃ items behind, scanner.Quotes items behind) ∨
      ∃ items tail, scanner.rest = '"' :: (write items ++ tail) ∧ Unfinished tail := by
  by_cases opened : scanner.rest.head? = some '"'
  · obtain ⟨text, rest_eq⟩ := List.head?_eq_some_iff.mp opened
    obtain ⟨items, tail, rfl, unfinished | ⟨behind, rfl⟩⟩ := exists_items text
    · exact .inr (.inr ⟨items, tail, rest_eq, unfinished⟩)
    · exact .inr (.inl ⟨items, behind, rest_eq⟩)
  · exact .inl opened

theorem readString_of_unopened (unopened : scanner.rest.head? ≠ some '"') :
    scanner.readString = (.ok none, scanner) := by
  rw [readString]
  split
  · next text rest_eq => exact absurd (congrArg List.head? rest_eq) unopened
  · rfl

theorem Quotes.readString (quotes : scanner.Quotes items behind) :
    scanner.readString = (.ok (some (items.map value)),
      scanner.withView (scanner.view.consume ((write items).length + 2))) := by
  have quoted : unquote? (write items ++ '"' :: behind) = some (items.map value, behind) := by
    rw [unquote_write]
    simp [unquote?]
  rw [Scanner.readString, quotes]
  simp only [quoted, List.length_append, List.length_cons]
  congr 4
  omega

theorem readString_of_unfinished (rest_eq : scanner.rest = '"' :: (write items ++ tail))
    (unfinished : Unfinished tail) :
    scanner.readString =
      (.error (scanner.malformed SourceProblem.unterminatedString.message scanner.offset
        (Text.size scanner.buffer)), scanner) := by
  rw [readString, rest_eq]
  simp only [unquote_write, unquote_of_unfinished unfinished, Option.map_none]

/-- A string that is not complete cannot be completed by reading it in another way. -/
theorem Quotes.not_unfinished (quotes : scanner.Quotes items behind)
    (rest_eq : scanner.rest = '"' :: (write others ++ tail)) : ¬ Unfinished tail := by
  intro unfinished
  have same := congrArg Prod.fst (quotes.readString.symm.trans
    (readString_of_unfinished rest_eq unfinished))
  cases same

/-- Strings are read by their grammar. -/
structure ReadsStrings (scanner : Scanner) : Prop where
  /-- Only a quote begins a string. -/
  none_iff : scanner.readString.1 = .ok none ↔ scanner.rest.head? ≠ some '"'
  /-- What is answered are the characters that the items of a complete string mean. -/
  some_iff (body : Text) : scanner.readString.1 = .ok (some body) ↔
    ∃ items behind, scanner.Quotes items behind ∧ body = items.map value
  /-- There is one way to read a string. -/
  unique {items others : List QuotedItem} {behind beyond : Text}
    (first : scanner.Quotes items behind) (second : scanner.Quotes others beyond) :
    items = others ∧ behind = beyond
  /-- The cursor goes behind the closing quote. -/
  goes_behind {items : List QuotedItem} {behind : Text} (quotes : scanner.Quotes items behind) :
    scanner.OnlyMoved scanner.readString.2 ∧ scanner.readString.2.rest = behind ∧
      scanner.readString.2.offset = scanner.offset + Text.size ('"' :: (write items ++ ['"']))
  /-- A string without a closing quote is reported, up to the end of the buffer. -/
  otherwise (opened : scanner.rest.head? = some '"')
    (unclosed : ∀ items behind, ¬ scanner.Quotes items behind) :
    ∃ report, scanner.readString.1 = .error report ∧ report.kind = .malformed ∧
      report.message = "unterminated string" ∧
      report.span = some ⟨scanner.offset, Text.size scanner.buffer⟩
  /-- That is a string whose items go on to the end, or to a backslash with nothing behind it. -/
  unclosed_iff :
    (scanner.rest.head? = some '"' ∧ ∀ items behind, ¬ scanner.Quotes items behind) ↔
      ∃ items tail, scanner.rest = '"' :: (write items ++ tail) ∧ Unfinished tail
  /-- Nothing else has changed, the mark included, where there is no complete string. -/
  stays (incomplete : ∀ items behind, ¬ scanner.Quotes items behind) :
    scanner.readString.2 = scanner

/-- Whatever stands at the cursor, a string is read there exactly by the grammar of strings. -/
theorem reads_strings (scanner : Scanner) : scanner.ReadsStrings where
  none_iff := by
    rcases scanner.string_cases with
      unopened | ⟨items, behind, quotes⟩ | ⟨items, tail, rest_eq, unfinished⟩
    · simp [readString_of_unopened unopened, unopened]
    · rw [quotes.readString, quotes]
      simp
    · rw [readString_of_unfinished rest_eq unfinished, rest_eq]
      simp
  some_iff body := by
    constructor
    · intro answer
      rcases scanner.string_cases with
        unopened | ⟨items, behind, quotes⟩ | ⟨items, tail, rest_eq, unfinished⟩
      · rw [readString_of_unopened unopened] at answer
        cases answer
      · rw [quotes.readString] at answer
        cases answer
        exact ⟨items, behind, quotes, rfl⟩
      · rw [readString_of_unfinished rest_eq unfinished] at answer
        cases answer
    · rintro ⟨items, behind, quotes, rfl⟩
      rw [quotes.readString]
  unique first second := first.unique second
  goes_behind {items behind} quotes := by
    have rest_eq : scanner.rest = '"' :: (write items ++ ['"']) ++ behind := by
      rw [quotes]
      simp
    have moved : scanner.OnlyMoved scanner.readString.2 := by
      rw [quotes.readString]
      exact ⟨rfl, View.buffer_consume _ _, rfl, rfl⟩
    have behind_eq : scanner.readString.2.rest = behind := by
      have passed : (write items).length + 2 = ('"' :: (write items ++ ['"'])).length := by simp
      rw [quotes.readString, passed]
      exact (congrArg (List.drop _) rest_eq).trans List.drop_left
    rw [← behind_eq] at rest_eq
    exact ⟨moved, behind_eq, (moved.takes rest_eq).offset_eq⟩
  otherwise opened unclosed := by
    rcases scanner.string_cases with
      unopened | ⟨items, behind, quotes⟩ | ⟨items, tail, rest_eq, unfinished⟩
    · exact absurd opened unopened
    · exact absurd quotes (unclosed items behind)
    · rw [readString_of_unfinished rest_eq unfinished]
      exact ⟨_, rfl, rfl, rfl, rfl⟩
  unclosed_iff := by
    constructor
    · rintro ⟨opened, unclosed⟩
      rcases scanner.string_cases with unopened | ⟨items, behind, quotes⟩ | unfinished
      · exact absurd opened unopened
      · exact absurd quotes (unclosed items behind)
      · exact unfinished
    · rintro ⟨items, tail, rest_eq, unfinished⟩
      refine ⟨by rw [rest_eq]; rfl, fun others behind quotes => ?_⟩
      exact quotes.not_unfinished rest_eq unfinished
  stays incomplete := by
    rcases scanner.string_cases with
      unopened | ⟨items, behind, quotes⟩ | ⟨items, tail, rest_eq, unfinished⟩
    · rw [readString_of_unopened unopened]
    · exact absurd quotes (incomplete items behind)
    · rw [readString_of_unfinished rest_eq unfinished]

-- The second backslash is escaped itself, so the quote behind it closes the string.
example : (ofText "\"a\\\\\"b".toList).readString.1 = .ok (some ['a', '\\']) := rfl

end Scanner
end MmlScan
