import MmlScan.Proofs.Directive

/-!
# Writing and reading macros

A directive tells its key by what stands in front of the first equals sign, without the blanks
around it.  So a key without an equals sign and without blanks at its ends can be written as it is,
between any blanks; and whatever its replacement is, quoting and reading give both back.
-/

namespace MmlScan

namespace Text

/-- A key that a directive can define: it has no equals sign, and content at both ends. -/
structure IsHygienic (key : Text) : Prop where
  no_equals : '=' ∉ key
  front : ¬ key.BlankLed
  back : ¬ BlankLed key.reverse

instance (key : Text) : Decidable key.IsHygienic :=
  decidable_of_iff ('=' ∉ key ∧ ¬ key.BlankLed ∧ ¬ BlankLed key.reverse)
    ⟨fun ⟨no_equals, front, back⟩ => ⟨no_equals, front, back⟩,
      fun hygienic => ⟨hygienic.no_equals, hygienic.front, hygienic.back⟩⟩

theorem IsHygienic.ne_nil {key : Text} (hygienic : key.IsHygienic) : key ≠ [] := by
  rintro rfl
  exact hygienic.front blankLed_nil

/-! ## Blanks around a key -/

theorem blankLed_append {text : Text} (nonempty : text ≠ []) (behind : Text) :
    BlankLed (text ++ behind) ↔ text.BlankLed := by
  rw [BlankLed, BlankLed, List.head?_append_of_ne_nil text nonempty]

theorem trimStart_of_blanks {blanks text : Text} (blank : ∀ c ∈ blanks, isBlank c = true)
    (content : ¬ text.BlankLed) : trimStart (blanks ++ text) = text := by
  rw [trimStart, List.dropWhile_append_of_pos blank]
  exact trimStart_eq_self content

/-- Leading blanks are what is in front of the trimmed text. -/
theorem trimStart_split (text : Text) :
    ∃ blanks, (∀ c ∈ blanks, isBlank c = true) ∧ text = blanks ++ trimStart text :=
  ⟨text.takeWhile isBlank, fun _ member => List.mem_takeWhile_imp member,
    List.takeWhile_append_dropWhile.symm⟩

theorem trim_of_blanks {leading key trailing : Text}
    (leading_blank : ∀ c ∈ leading, isBlank c = true)
    (trailing_blank : ∀ c ∈ trailing, isBlank c = true) (hygienic : key.IsHygienic) :
    trim (leading ++ key ++ trailing) = key := by
  have front : ¬ BlankLed (key ++ trailing) := by
    rw [blankLed_append hygienic.ne_nil]
    exact hygienic.front
  have trailing_reversed : ∀ c ∈ trailing.reverse, isBlank c = true := by simpa using trailing_blank
  rw [trim, List.append_assoc, trimStart_of_blanks leading_blank front, List.reverse_append,
    trimStart_of_blanks trailing_reversed hygienic.back, List.reverse_reverse]

/-- The blanks that are trimmed, and the content between them, if there is any. -/
theorem trim_split (text : Text) :
    ∃ leading trailing, (∀ c ∈ leading, isBlank c = true) ∧ (∀ c ∈ trailing, isBlank c = true) ∧
      text = leading ++ trim text ++ trailing ∧
      (trim text ≠ [] → ¬ (trim text).BlankLed ∧ ¬ BlankLed (trim text).reverse) := by
  obtain ⟨leading, leading_blank, text_eq⟩ := trimStart_split text
  obtain ⟨trailing, trailing_blank, reverse_eq⟩ := trimStart_split (trimStart text).reverse
  have start_eq : trimStart text = trim text ++ trailing.reverse := by
    rw [← List.reverse_reverse (trimStart text), reverse_eq, List.reverse_append]
    rfl
  refine ⟨leading, trailing.reverse, leading_blank, by simpa using trailing_blank, ?_, ?_⟩
  · rw [List.append_assoc, ← start_eq]
    exact text_eq
  · intro nonempty
    constructor
    · rw [← blankLed_append nonempty trailing.reverse, ← start_eq]
      rcases trimStart_content text with nothing | content
      · rw [nothing] at start_eq
        exact absurd (List.append_eq_nil_iff.mp start_eq.symm).1 nonempty
      · exact content
    · rcases trimStart_content (trimStart text).reverse with nothing | content
      · rw [trim, nothing] at nonempty
        exact absurd rfl nonempty
      · rw [trim, List.reverse_reverse]
        exact content

end Text

/-! ## Directives -/

/-- A body tells a key and a replacement exactly if it is written with them. -/
theorem Directive.split_eq_ok_iff {body key replacement : Text} :
    split body = .ok (key, replacement) ↔
      key.IsHygienic ∧ ∃ leading trailing, (∀ c ∈ leading, Text.isBlank c = true) ∧
        (∀ c ∈ trailing, Text.isBlank c = true) ∧
        body = leading ++ key ++ trailing ++ '=' :: replacement := by
  constructor
  · intro success
    rw [split] at success
    split at success
    · cases success
    · next equals behind found =>
      dsimp only at success
      split at success
      · cases success
      · next nonempty =>
        cases success
        have equals_eq : equals = '=' := by
          have stops := List.head?_dropWhile_not (fun c : Char => decide (c ≠ '=')) body
          rw [found] at stops
          simpa using stops
        obtain ⟨leading, trailing, leading_blank, trailing_blank, front_eq, content⟩ :=
          Text.trim_split (body.takeWhile (· ≠ '='))
        have no_equals : '=' ∉ Text.trim (body.takeWhile (· ≠ '=')) := by
          intro member
          have before := (Scanner.trim_sublist _).mem member
          simpa using List.mem_takeWhile_imp before
        refine ⟨⟨no_equals, (content nonempty).1, (content nonempty).2⟩, leading, trailing,
          leading_blank, trailing_blank, ?_⟩
        rw [← front_eq, ← equals_eq, ← found, equals_eq, List.takeWhile_append_dropWhile]
  · rintro ⟨hygienic, leading, trailing, leading_blank, trailing_blank, rfl⟩
    have no_blank : Text.isBlank '=' = false := by decide
    have before : ∀ c ∈ leading ++ key ++ trailing, decide (c ≠ '=') = true := by
      intro c member
      rw [decide_eq_true_eq]
      rintro rfl
      rcases List.mem_append.mp member with member | member
      · rcases List.mem_append.mp member with member | member
        · rw [leading_blank _ member] at no_blank
          cases no_blank
        · exact hygienic.no_equals member
      · rw [trailing_blank _ member] at no_blank
        cases no_blank
    have front_eq : (leading ++ key ++ trailing ++ '=' :: replacement).takeWhile (· ≠ '=') =
        leading ++ key ++ trailing := by
      rw [List.takeWhile_append_of_pos before]
      simp
    have behind_eq : (leading ++ key ++ trailing ++ '=' :: replacement).dropWhile (· ≠ '=') =
        '=' :: replacement := by
      rw [List.dropWhile_append_of_pos before]
      simp
    rw [split, behind_eq, front_eq, Text.trim_of_blanks leading_blank trailing_blank hygienic]
    dsimp only
    rw [if_neg hygienic.ne_nil]

namespace Scanner

/-- Every macro can be written as a directive, and reading the directive defines this macro, changes
no other, and goes on right behind the closing quote. -/
theorem readDirective_write {scanner : Scanner} {leading key trailing replacement behind : Text}
    (hygienic : key.IsHygienic) (leading_blank : ∀ c ∈ leading, Text.isBlank c = true)
    (trailing_blank : ∀ c ∈ trailing, Text.isBlank c = true)
    (rest_eq : scanner.rest =
      Directive.write (leading ++ key ++ trailing ++ '=' :: replacement) ++ behind) :
    ∃ after, scanner.readDirective = (.ok true, after) ∧
      after.macros.get? key = some replacement ∧
      (∀ other, other ≠ key → after.macros.get? other = scanner.macros.get? other) ∧
      after.rest = behind ∧
      after.offset = scanner.offset +
        Text.size (Directive.write (leading ++ key ++ trailing ++ '=' :: replacement)) ∧
      after.source = scanner.source ∧ after.buffer = scanner.buffer ∧
      after.expansions = scanner.expansions := by
  let body := leading ++ key ++ trailing ++ '=' :: replacement
  have parts : Directive.split body = .ok (key, replacement) :=
    Directive.split_eq_ok_iff.mpr ⟨hygienic, leading, trailing, leading_blank, trailing_blank, rfl⟩
  have read := readDirective_of_quoted rest_eq (quoted_escape body) parts
  let after := (scanner.withView (scanner.view.consume (Directive.write body).length)).define
    key replacement
  have taken_eq : scanner.rest.take (Directive.write body).length = Directive.write body := by
    rw [rest_eq]
    exact List.take_left
  have takes : Takes _ scanner after := takes_consume (Directive.write body).length rfl rfl
  rw [taken_eq] at takes
  refine ⟨after, read, ?_, fun other different => ?_, ?_, takes.offset_eq, rfl, takes.buffer_eq,
    takes.expansions_eq⟩
  · exact (MacroTable.get?_define _ _ _ _).trans (if_pos rfl)
  · exact (MacroTable.get?_define _ _ _ _).trans (if_neg different.symm)
  · exact List.append_cancel_left (takes.rest_eq.symm.trans rest_eq)

/-- A macro whose replacement holds a directive, being expanded; in the directive a quote, a
backslash, an equals sign and a line break belong to the new replacement. -/
def directiveInMacro : Scanner :=
  ((ofText "M;".toList).define "M".toList
    (Directive.write " k\" é\t=\"\\=\né".toList ++ "cd".toList)).expand.2

theorem readDirective_write_inMacro :
    let scanner := directiveInMacro
    let key : Text := "k\" é".toList
    let replacement : Text := "\"\\=\né".toList
    let written := Directive.write ([' '] ++ key ++ ['\t'] ++ '=' :: replacement)
    key.IsHygienic ∧ scanner.rest = written ++ "cd".toList ∧
    ∃ after, scanner.readDirective = (.ok true, after) ∧
      after.macros.get? key = some replacement ∧
      (∀ other, other ≠ key → after.macros.get? other = scanner.macros.get? other) ∧
      after.rest = "cd".toList ∧ after.offset = scanner.offset + Text.size written ∧
      after.source = scanner.source ∧ after.buffer = scanner.buffer ∧
      after.expansions = scanner.expansions := by
  intro scanner key replacement written
  have hygienic : key.IsHygienic := by decide +kernel
  have rest_eq : scanner.rest = written ++ "cd".toList := by decide +kernel
  exact ⟨hygienic, rest_eq,
    readDirective_write hygienic (List.forall_mem_singleton.mpr (by decide))
      (List.forall_mem_singleton.mpr (by decide)) rest_eq⟩

end Scanner
end MmlScan
