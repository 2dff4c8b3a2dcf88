import MmlScan.Proofs.History
import MmlScan.Proofs.Rewind

/-!
# Written directives

A body can be written as a quoted string in several ways, and reading the string gives back the
body.  So where a written directive stands at the cursor, behind blanks at most, a round takes it
and defines its macro, unless a key stands there too.
-/

namespace MmlScan

/-! ## Quoted strings -/

/-- How a body is written up to and with the closing quote: a backslash stands in front of every
quote and every backslash, and may stand in front of anything else. -/
inductive Quoted : Text → Text → Prop
  | closing : Quoted [] ['"']
  | escaped (c : Char) {body string : Text} (later : Quoted body string) :
      Quoted (c :: body) ('\\' :: c :: string)
  | plain {c : Char} {body string : Text} (no_quote : c ≠ '"') (no_escape : c ≠ '\\')
      (later : Quoted body string) : Quoted (c :: body) (c :: string)

/-- Writes a body with no more backslashes than it needs. -/
def Text.escape : Text → Text
  | [] => []
  | c :: rest => if c = '"' ∨ c = '\\' then '\\' :: c :: escape rest else c :: escape rest

theorem quoted_escape (body : Text) : Quoted body (Text.escape body ++ ['"']) := by
  induction body with
  | nil => exact .closing
  | cons c body ih =>
      rw [Text.escape]
      split
      · exact .escaped c ih
      · next plain =>
          rw [not_or] at plain
          exact .plain plain.1 plain.2 ih

/-- A body between quotes. -/
def Directive.write (body : Text) : Text :=
  '"' :: (Text.escape body ++ ['"'])

namespace Scanner

/-- Reading a string gives back the body it is written for. -/
theorem unquote_of_quoted {body string : Text} (quoted : Quoted body string) (behind : Text) :
    unquote? (string ++ behind) = some (body, behind) := by
  induction quoted with
  | closing => rfl
  | escaped c later ih =>
      rw [List.cons_append, List.cons_append, unquote_escaped, ih]
      rfl
  | plain no_quote no_escape later ih =>
      rw [List.cons_append, unquote_plain no_quote no_escape, ih]
      rfl

/-! ## The gate in front of content -/

section Gate

variable {scanner : Scanner} {blanks behind : Text} {c : Char}

/-- Passing over blanks ends in front of the content behind them. -/
theorem skip_of_blanks (rest_eq : scanner.rest = blanks ++ c :: behind)
    (blank : ∀ d ∈ blanks, Text.isBlank d = true) (content : Text.isBlank c = false) :
    scanner.skip.2 = scanner.withView (scanner.view.consume blanks.length) ∧
      scanner.skip.2.rest = c :: behind := by
  have run_eq : scanner.view.rest.takeWhile Text.isBlank = blanks := by
    have stops : (c :: behind).takeWhile Text.isBlank = [] :=
      List.takeWhile_cons_of_neg (by simp [content])
    rw [show scanner.view.rest = _ from rest_eq, List.takeWhile_append_of_pos blank, stops,
      List.append_nil]
  have skipped : scanner.skipBlanks.2 = scanner.withView (scanner.view.consume blanks.length) := by
    rw [skipBlanks, View.trimWhile, run_eq]
  have behind_eq : scanner.skipBlanks.2.rest = c :: behind := by
    rw [skipped, rest, withView, View.rest_consume]
    exact (congrArg (List.drop blanks.length) rest_eq).trans List.drop_left
  have remains : scanner.skipBlanks.2.isExhausted ≠ true := by
    rw [isExhausted, View.isExhausted, show scanner.skipBlanks.2.view.rest = _ from behind_eq]
    exact Bool.false_ne_true
  rw [skip, skipFrom_of_stay false fun exhausted => absurd exhausted remains]
  exact ⟨skipped, behind_eq⟩

/-- The gate opens in front of the content behind blanks, unless a key begins it. -/
theorem reachToken_of_blanks (rest_eq : scanner.rest = blanks ++ c :: behind)
    (blank : ∀ d ∈ blanks, Text.isBlank d = true) (content : Text.isBlank c = false)
    (fresh : ∀ key ∈ scanner.macros.keys, ¬ key <+: c :: behind) :
    scanner.reachToken =
      (.ok true, scanner.withView ((scanner.view.consume blanks.length).consume 0)) := by
  obtain ⟨skipped, behind_eq⟩ := skip_of_blanks rest_eq blank content
  have notFound : scanner.skip.2.macros.longestMatch? scanner.skip.2.rest = none := by
    rw [behind_eq, show scanner.skip.2.macros = _ from macros_skipFrom false scanner]
    exact MacroTable.longestMatch_eq_none_iff.mpr fresh
  have expanded : scanner.skip.2.expand = (.ok 0, scanner.skip.2) :=
    expandFrom_of_notFound 0 notFound
  have no_blanks : scanner.skip.2.rest = [] ++ c :: behind := behind_eq
  obtain ⟨skipped_again, still_behind⟩ := skip_of_blanks no_blanks (by simp) content
  have remains : scanner.skip.2.skip.2.isExhausted = false := by
    rw [isExhausted, View.isExhausted, show scanner.skip.2.skip.2.view.rest = _ from still_behind]
    rfl
  rw [reachToken, expanded]
  dsimp only
  rw [remains, skipped_again, skipped]
  rfl

end Gate

/-! ## Rounds -/

section Rounds

variable {scanner : Scanner} {blanks behind string body key replacement : Text}

theorem readString_of_quoted (rest_eq : scanner.rest = '"' :: (string ++ behind))
    (quoted : Quoted body string) : scanner.readString = (.ok (some body),
      scanner.withView (scanner.view.consume (string.length + 1))) := by
  have count_eq : (string ++ behind).length + 1 - behind.length = string.length + 1 := by
    rw [List.length_append]
    omega
  rw [readString, rest_eq]
  simp only [unquote_of_quoted quoted, count_eq]

theorem readDirective_of_quoted (rest_eq : scanner.rest = '"' :: (string ++ behind))
    (quoted : Quoted body string) (parts : Directive.split body = .ok (key, replacement)) :
    scanner.readDirective = (.ok true,
      (scanner.withView (scanner.view.consume (string.length + 1))).define key replacement) := by
  rw [readDirective, readString_of_quoted rest_eq quoted]
  dsimp only
  rw [parts]

/-- A round takes the directive behind blanks and defines its macro. -/
theorem round_of_directive (rest_eq : scanner.rest = blanks ++ '"' :: (string ++ behind))
    (blank : ∀ d ∈ blanks, Text.isBlank d = true) (quoted : Quoted body string)
    (parts : Directive.split body = .ok (key, replacement))
    (fresh : ∀ key ∈ scanner.macros.keys, ¬ key <+: '"' :: (string ++ behind)) :
    scanner.round = .advanced none ((scanner.withView
      ((scanner.view.consume blanks.length).consume (string.length + 1))).define
        key replacement) := by
  have opened := reachToken_of_blanks rest_eq blank (by decide) fresh
  have behind_eq : (scanner.withView ((scanner.view.consume blanks.length).consume 0)).rest =
      '"' :: (string ++ behind) := by
    rw [rest, withView, View.rest_consume, View.rest_consume, List.drop_zero]
    exact (congrArg (List.drop blanks.length) rest_eq).trans List.drop_left
  rw [round, opened]
  dsimp only
  rw [readDirective_of_quoted behind_eq quoted parts]
  rfl

end Rounds

/-! ## Definitions -/

/-- Definitions change the table and nothing else. -/
theorem defineAll_eq (scanner : Scanner) (definitions : List (Text × Text)) :
    scanner.defineAll definitions =
      { scanner with macros := scanner.macros.defineAll definitions } := by
  induction definitions generalizing scanner with
  | nil => rfl
  | cons first definitions ih => exact ih (scanner.define first.1 first.2)

end Scanner
end MmlScan
