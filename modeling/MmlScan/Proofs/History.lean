import MmlScan.Proofs.Scanning
import Mathlib.Data.List.TakeWhile

/-!
# The history of a scan

A scan is a sequence of events: it passes over blanks, takes a directive or a token, enters the
macro at the cursor, or leaves an exhausted expansion.  Each event but the last kind takes up a
piece of the buffer that is being read at that moment.  The events in between the entering and the
leaving of a macro happen in its replacement; all others happen in the source.

Every scan that succeeds has such a history, and its tokens are those of the events.
-/

namespace MmlScan

namespace Text

/-- A token in front of a text: a run of digits that does not go on, or one character that is
neither a digit nor a blank nor a quote. -/
def IsLexeme (lexeme behind : Text) : Prop :=
  (lexeme ≠ [] ∧ (∀ c ∈ lexeme, c.isDigit = true) ∧ ∀ c ∈ behind.head?, c.isDigit = false) ∨
    ∃ c, lexeme = [c] ∧ c.isDigit = false ∧ isBlank c = false ∧ c ≠ '"'

theorem IsLexeme.ne_nil {lexeme behind : Text} (found : lexeme.IsLexeme behind) :
    lexeme ≠ [] := by
  rcases found with ⟨nonempty, _⟩ | ⟨c, rfl, _⟩
  · exact nonempty
  · exact List.cons_ne_nil _ _

theorem lexeme_append_drop (text : Text) : text.lexeme ++ text.drop text.lexeme.length = text := by
  cases text with
  | nil => rfl
  | cons c rest =>
      rw [lexeme]
      split
      · rw [drop_length_takeWhile, List.takeWhile_append_dropWhile]
      · rfl

theorem isLexeme_lexeme {text : Text} (content : ¬ text.BlankLed)
    (unquoted : text.head? ≠ some '"') : text.lexeme.IsLexeme (text.drop text.lexeme.length) := by
  cases text with
  | nil => exact absurd blankLed_nil content
  | cons c rest =>
      rw [blankLed_cons, Bool.not_eq_true] at content
      rw [lexeme]
      by_cases digit : c.isDigit = true
      · rw [if_pos digit, drop_length_takeWhile]
        refine .inl ⟨?_, fun d member => ?_, fun d first => ?_⟩
        · rw [List.takeWhile_cons_of_pos digit]
          exact List.cons_ne_nil _ _
        · exact List.mem_takeWhile_imp member
        · have stops := List.head?_dropWhile_not Char.isDigit (c :: rest)
          rw [Option.mem_def.mp first] at stops
          simpa using stops
      · rw [if_neg digit]
        rw [Bool.not_eq_true] at digit
        refine .inr ⟨c, rfl, digit, content, fun quote => unquoted ?_⟩
        rw [quote]
        rfl

end Text

/-- The token is the text between two parts of its buffer, and knows its place. -/
structure Token.Stands (token : Token) (front behind : Text) : Prop where
  offset_eq : token.offset = Text.size front
  line_eq : token.line = Text.lineAfter front
  lexeme : token.text.IsLexeme behind

namespace Scanner

/-! ## Events -/

/-- What a scan does in the text it reads. -/
inductive Event where
  | blanks (run : Text)
  | directive (string : Text)
  | enter (definition : MacroDefinition)
  | leave
  | token (token : Token)

namespace Event

/-- The piece of the buffer that is taken up. -/
def piece : Event → Text
  | .blanks run => run
  | .directive string => string
  | .enter definition => definition.key
  | .leave => []
  | .token taken => taken.text

/-- The token taken. -/
def token? : Event → Option Token
  | .token taken => some taken
  | .blanks _ | .directive _ | .enter _ | .leave => none

/-- The event takes up a run of blanks, a quoted directive, a key or a token. -/
def TakesPiece : Event → Prop
  | .blanks run => run ≠ [] ∧ ∀ c ∈ run, Text.isBlank c = true
  | .directive string =>
      ∃ quoted body key replacement, string = '"' :: quoted ∧
        unquote? quoted = some (body, []) ∧ Directive.split body = .ok (key, replacement)
  | .enter _ | .token _ => True
  | .leave => False

/-- The tokens taken by events, of which the latest is first. -/
def tokens (events : List Event) : List Token :=
  (events.filterMap token?).reverse

theorem tokens_append (later earlier : List Event) :
    tokens (later ++ earlier) = tokens earlier ++ tokens later := by
  rw [tokens, List.filterMap_append, List.reverse_append]
  rfl

theorem tokens_cons (event : Event) (events : List Event) :
    tokens (event :: events) = tokens events ++ event.token?.toList := by
  have single : tokens [event] = event.token?.toList := by cases event <;> rfl
  rw [← single]
  exact tokens_append [event] events

end Event

/-- An event leads from one scanner to another. -/
inductive Step : Event → Scanner → Scanner → Prop
  | blanks {scanner : Scanner} (passed : scanner.skipBlanks.1 = true) :
      Step (.blanks (scanner.rest.takeWhile Text.isBlank)) scanner scanner.skipBlanks.2
  | directive {scanner after : Scanner} {string : Text}
      (read : scanner.readDirective = (.ok true, after))
      (taken : scanner.rest = string ++ after.rest) : Step (.directive string) scanner after
  | enter {scanner inner : Scanner} {definition : MacroDefinition}
      (found : scanner.macros.longestMatch? scanner.rest = some definition)
      (begun : scanner.enter? definition.key definition.replacement = some inner) :
      Step (.enter definition) scanner inner
  | leave {scanner outer : Scanner} (exhausted : scanner.isExhausted = true)
      (left : scanner.exit? = some outer) : Step .leave scanner outer
  | token {scanner after : Scanner} {token : Token}
      (plain : scanner.readDirective = (.ok false, scanner))
      (taken : scanner.takeToken = .advanced (some token) after) : Step (.token token) scanner after

/-- Events, the latest first, lead from a start to a scanner.  Setting the mark is no event. -/
inductive History (start : Scanner) : List Event → Scanner → Prop
  | start : History start [] start
  | mark {events : List Event} {scanner : Scanner} (earlier : History start events scanner) :
      History start events (scanner.withView scanner.view.archive)
  | event {event : Event} {events : List Event} {before after : Scanner}
      (earlier : History start events before) (step : Step event before after) :
      History start (event :: events) after

theorem History.trans {first second third : Scanner} {earlier later : List Event}
    (front : History first earlier second) (back : History second later third) :
    History first (later ++ earlier) third := by
  induction back with
  | start => exact front
  | mark _ ih => exact ih.mark
  | event _ step ih => exact ih.event step

theorem Step.history {event : Event} {before after : Scanner} (step : Step event before after) :
    History before [event] after :=
  .event .start step

/-- Every event of a history is a step from a scanner to which the earlier events lead. -/
theorem History.step_of_append {start scanner : Scanner} {later earlier : List Event}
    {event : Event} (history : History start (later ++ event :: earlier) scanner) :
    ∃ before after, History start earlier before ∧ Step event before after := by
  generalize events_eq : later ++ event :: earlier = events at history
  induction history generalizing later with
  | start => exact absurd events_eq (List.append_ne_nil_of_right_ne_nil _ (List.cons_ne_nil _ _))
  | mark _ ih => exact ih events_eq
  | event before step ih =>
      cases later with
      | nil =>
          cases events_eq
          exact ⟨_, _, before, step⟩
      | cons last later => exact ih (List.cons.inj events_eq).2

/-! ## A scan is a history -/

section Runs

variable {scanner after reached : Scanner}

theorem skipBlanks_of_no_blanks (none_passed : scanner.skipBlanks.1 = false) :
    scanner.skipBlanks.2 = scanner.withView scanner.view.archive := by
  have run_nil : scanner.view.rest.takeWhile Text.isBlank = [] := by
    simpa [skipBlanks, View.trimWhile] using none_passed
  have consume_zero : scanner.view.consume 0 = scanner.view.archive :=
    View.eq_of_parts rfl rfl rfl
  rw [skipBlanks, View.trimWhile, run_nil, List.length_nil, consume_zero]

theorem history_skipBlanks (scanner : Scanner) :
    ∃ events, History scanner events scanner.skipBlanks.2 ∧ Event.tokens events = [] := by
  cases passed : scanner.skipBlanks.1 with
  | true => exact ⟨_, (Step.blanks passed).history, rfl⟩
  | false =>
      rw [skipBlanks_of_no_blanks passed]
      exact ⟨[], History.start.mark, rfl⟩

theorem history_skipFrom (skipped : Bool) (scanner : Scanner) :
    ∃ events, History scanner events (skipFrom skipped scanner).2 ∧ Event.tokens events = [] := by
  fun_induction skipFrom skipped scanner with
  | case1 skipped scanner run consumed after exhausted outer left ih =>
      obtain ⟨blanks, passed, blanks_tokens⟩ := history_skipBlanks scanner
      obtain ⟨later, rest, later_tokens⟩ := ih
      refine ⟨_, (passed.event (.leave exhausted left)).trans rest, ?_⟩
      rw [Event.tokens_append, later_tokens, List.append_nil]
      exact blanks_tokens
  | case2 skipped scanner => exact history_skipBlanks scanner
  | case3 skipped scanner => exact history_skipBlanks scanner

theorem Enters.history {definitions : List MacroDefinition}
    (enters : Enters definitions scanner after) :
    ∃ events, History scanner events after ∧ Event.tokens events = [] := by
  induction enters with
  | nil => exact ⟨[], .start, rfl⟩
  | cons found begun _ ih =>
      obtain ⟨later, rest, later_tokens⟩ := ih
      refine ⟨_, (Step.enter found begun).history.trans rest, ?_⟩
      rw [Event.tokens_append, later_tokens]
      rfl

theorem history_reachToken {available : Bool}
    (opened : scanner.reachToken = (.ok available, reached)) :
    ∃ events, History scanner events reached ∧ Event.tokens events = [] := by
  obtain ⟨definitions, expanded, enters, _, rfl, _⟩ := reachToken_eq_ok opened
  obtain ⟨first, skipped, first_tokens⟩ := history_skipFrom false scanner
  obtain ⟨second, entered, second_tokens⟩ := enters.history
  obtain ⟨third, settled, third_tokens⟩ := history_skipFrom false expanded
  refine ⟨_, (skipped.trans entered).trans settled, ?_⟩
  rw [Event.tokens_append, Event.tokens_append, first_tokens, second_tokens, third_tokens]
  rfl

/-- A round that goes on takes its token, and no other. -/
theorem history_of_advanced {token : Option Token} (ended : scanner.round = .advanced token after) :
    ∃ events, History scanner events after ∧ Event.tokens events = token.toList := by
  obtain ⟨reached, gate, ended⟩ := round_eq_advanced ended
  obtain ⟨events, history, no_tokens⟩ := history_reachToken gate
  rcases ended with ⟨read, rfl⟩ | ⟨read, taken⟩
  · obtain ⟨string, _, _, _, _, _, takes, _⟩ := takes_readDirective read
    exact ⟨_, history.event (.directive read takes.rest_eq), no_tokens⟩
  · obtain ⟨text, _, rfl⟩ := takeToken_eq_advanced taken
    refine ⟨_, history.trans (Step.token read taken).history, ?_⟩
    rw [Event.tokens_append, no_tokens]
    rfl

/-- A scan that succeeds is a history, and its tokens are those of the events. -/
theorem history_of_scanFrom {taken tokens : List Token}
    (success : scanFrom taken scanner = (.ok tokens, after)) :
    ∃ events, History scanner events after ∧ tokens = taken.reverse ++ Event.tokens events := by
  fun_induction scanFrom taken scanner with
  | case1 => cases success
  | case2 taken scanner after ended =>
      cases success
      obtain ⟨events, history, no_tokens⟩ := history_reachToken (round_eq_finished ended)
      exact ⟨events, history, by rw [no_tokens, List.append_nil]⟩
  | case3 taken scanner token after ended ih =>
      obtain ⟨events, history, events_tokens⟩ := history_of_advanced ended
      obtain ⟨later, rest, rfl⟩ := ih success
      refine ⟨_, history.trans rest, ?_⟩
      rw [Event.tokens_append, events_tokens, List.reverse_append, List.append_assoc]
      cases token <;> rfl

end Runs

end Scanner
end MmlScan
