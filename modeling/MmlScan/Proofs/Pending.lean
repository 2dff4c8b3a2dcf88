import MmlScan.Proofs.Gate
import MmlScan.Proofs.Matching

/-!
# The pending text

The texts ahead of a scanner, one after the other, are its pending text: what is left of the
source if every expansion in progress is written out in the place of its key.  Each operation
edits this text at the front only.  Blanks and lexemes are taken off, a key is replaced by its
replacement, and leaving an exhausted expansion changes nothing.
-/

namespace MmlScan

/-! ## Edits -/

/-- A change at the front of a text. -/
inductive Edit where
  /-- Blanks are passed over. -/
  | skip (blanks : Text)
  /-- The key of a macro is replaced. -/
  | splice (definition : MacroDefinition)
  /-- A quoted string is taken. -/
  | quote (string : Text)
  /-- A token is taken. -/
  | token (text : Text)

namespace Edit

/-- What goes. -/
def removed : Edit → Text
  | .skip blanks => blanks
  | .splice definition => definition.key
  | .quote string => string
  | .token text => text

/-- What comes in its place. -/
def inserted : Edit → Text
  | .splice definition => definition.replacement
  | .skip _ | .quote _ | .token _ => []

/-- The token taken. -/
def token? : Edit → Option Text
  | .token text => some text
  | .skip _ | .splice _ | .quote _ => none

end Edit

/-- Edits, one after the other, lead from one text to another. -/
inductive Edits : List Edit → Text → Text → Prop
  | nil (text : Text) : Edits [] text text
  | cons {edit : Edit} {edits : List Edit} {behind final : Text}
      (later : Edits edits (edit.inserted ++ behind) final) :
      Edits (edit :: edits) (edit.removed ++ behind) final

namespace Edits

theorem single (edit : Edit) (behind : Text) :
    Edits [edit] (edit.removed ++ behind) (edit.inserted ++ behind) :=
  .cons (.nil _)

theorem append {front back : List Edit} {first second third : Text}
    (left : Edits front first second) (right : Edits back second third) : Edits (front ++ back) first third := by
  induction left with
  | nil => exact right
  | cons _ ih => exact .cons (ih right)

end Edits

namespace Text

theorem trimStart_append (front back : Text) :
    trimStart (front ++ back) =
      if trimStart front = [] then trimStart back else trimStart front ++ back := by
  rw [trimStart, List.dropWhile_append]
  change (if (trimStart front).isEmpty then trimStart back else trimStart front ++ back) = _
  by_cases blank : trimStart front = []
  · rw [if_pos blank, if_pos (List.isEmpty_iff.mpr blank)]
  · rw [if_neg blank, if_neg fun empty => blank (List.isEmpty_iff.mp empty)]

theorem takeWhile_isBlank_append_ne_nil_iff (front back : Text) :
    (front ++ back).takeWhile isBlank ≠ [] ↔
      front.takeWhile isBlank ≠ [] ∨ trimStart front = [] ∧ back.takeWhile isBlank ≠ [] := by
  cases front with
  | nil => simp [trimStart]
  | cons c rest =>
      by_cases blank : isBlank c = true
      · simp [blank]
      · simp [trimStart, blank]

end Text

namespace Scanner

/-! ## The pending text -/

/-- The text that is still to be read. -/
def pending (scanner : Scanner) : Text :=
  scanner.ahead.flatten

theorem flatten_settle (texts : List Text) :
    (settle texts).flatten = Text.trimStart texts.flatten := by
  induction texts with
  | nil => rfl
  | cons text texts ih =>
      cases texts with
      | nil => simp [settle]
      | cons next texts =>
          rw [settle, List.flatten_cons (l := text), Text.trimStart_append, ← ih]
          split <;> rfl

theorem pending_skip (scanner : Scanner) :
    scanner.skip.2.pending = Text.trimStart scanner.pending := by
  rw [pending, ahead_skip, flatten_settle, pending]

theorem pending_exit {scanner outer : Scanner} (exhausted : scanner.isExhausted = true)
    (left : scanner.exit? = some outer) : outer.pending = scanner.pending := by
  have rest_nil : scanner.rest = [] := List.isEmpty_iff.mp exhausted
  rw [pending, pending, ahead_exit left, rest_nil, List.flatten_cons, List.nil_append]

/-- Passing over blanks tells whether there are some in front of the pending text. -/
theorem skipFrom_eq_true_iff (skipped : Bool) (scanner : Scanner) :
    (skipFrom skipped scanner).1 = true ↔
      skipped = true ∨ scanner.pending.takeWhile Text.isBlank ≠ [] := by
  have flag_iff (skipped : Bool) (scanner : Scanner) :
      (skipped || scanner.skipBlanks.1) = true ↔
        skipped = true ∨ scanner.rest.takeWhile Text.isBlank ≠ [] := by
    simp [skipBlanks, View.trimWhile, rest]
  fun_induction skipFrom skipped scanner with
  | case1 skipped scanner run consumed after exhausted outer left ih =>
      have blank : Text.trimStart scanner.rest = [] := isExhausted_skipBlanks_iff.mp exhausted
      have pending_eq : scanner.pending = scanner.rest ++ outer.pending := by
        rw [pending, ahead_of_exit_skipBlanks left, List.flatten_cons, pending]
      refine ih.trans ?_
      rw [flag_iff, pending_eq, Text.takeWhile_isBlank_append_ne_nil_iff]
      simp [blank, or_assoc]
  | case2 skipped scanner run consumed after exhausted outside =>
      rw [flag_iff, pending, ahead_of_exit_skipBlanks_eq_none outside]
      simp
  | case3 skipped scanner run consumed after remains =>
      have visible : Text.trimStart scanner.rest ≠ [] :=
        fun empty => remains (isExhausted_skipBlanks_iff.mpr empty)
      rw [flag_iff, pending, ahead, List.flatten_cons, Text.takeWhile_isBlank_append_ne_nil_iff]
      simp [visible]

/-! ## Taking text -/

/-- The same source, buffer, expansions and macros: at most the cursor, the mark and the patterns
that are kept have changed. -/
structure OnlyMoved (scanner after : Scanner) : Prop where
  source_eq : after.source = scanner.source
  buffer_eq : after.buffer = scanner.buffer
  expansions_eq : after.expansions = scanner.expansions
  macros_eq : after.macros = scanner.macros

/-- Some text is taken off the rest of the buffer, and the other texts ahead stay. -/
structure Takes (taken : Text) (scanner after : Scanner) : Prop where
  rest_eq : scanner.rest = taken ++ after.rest
  buffer_eq : after.buffer = scanner.buffer
  offset_eq : after.offset = scanner.offset + Text.size taken
  expansions_eq : after.expansions = scanner.expansions

/-- The cursor has moved by what is taken off. -/
theorem OnlyMoved.takes {taken : Text} {scanner after : Scanner} (moved : scanner.OnlyMoved after)
    (rest_eq : scanner.rest = taken ++ after.rest) : Takes taken scanner after where
  rest_eq := rest_eq
  buffer_eq := moved.buffer_eq
  offset_eq := by
    have before_eq := scanner.view.offset_add_size_rest
    have after_eq := after.view.offset_add_size_rest
    rw [show scanner.view.rest = _ from rest_eq, Text.size_append] at before_eq
    rw [show after.view.buffer = scanner.view.buffer from moved.buffer_eq] at after_eq
    simp only [offset, rest] at before_eq ⊢
    omega
  expansions_eq := moved.expansions_eq

/-- Where nothing is taken off, the cursor has stayed. -/
theorem OnlyMoved.offset_eq {scanner after : Scanner} (moved : scanner.OnlyMoved after)
    (rest_eq : after.rest = scanner.rest) : after.offset = scanner.offset := by
  have nothing : scanner.rest = [] ++ after.rest := rest_eq.symm
  exact (moved.takes nothing).offset_eq

theorem Takes.pending_eq {taken : Text} {scanner after : Scanner}
    (takes : Takes taken scanner after) :
    scanner.pending = taken ++ after.pending := by
  rw [pending, pending, ahead, ahead, takes.rest_eq, takes.expansions_eq, List.flatten_cons,
    List.flatten_cons, List.append_assoc]

/-- Moving the cursor forward takes what it passes. -/
theorem takes_consume {scanner after : Scanner} (count : Nat)
    (view_eq : after.view = scanner.view.consume count)
    (expansions_eq : after.expansions = scanner.expansions) :
    Takes (scanner.rest.take count) scanner after where
  rest_eq := by
    rw [rest, rest, view_eq, View.rest_consume, List.take_append_drop]
  buffer_eq := by
    rw [buffer, buffer, view_eq, View.buffer_consume]
  offset_eq := by
    rw [offset, view_eq]
    rfl
  expansions_eq := expansions_eq

theorem takes_trim {scanner after : Scanner} {pattern taken : Text} {ignoreCase : Bool}
    (success : scanner.trim pattern ignoreCase = (.ok (some taken), after)) :
    Takes taken scanner after := by
  obtain ⟨compiled, patterns, _, view_eq, after_eq⟩ := trim_eq_ok success
  obtain ⟨length, _, rfl, consumed⟩ := View.trim_eq_some view_eq
  exact takes_consume length consumed (by rw [after_eq])

theorem takes_trimUntil {scanner after : Scanner} {pattern front : Text} {ignoreCase : Bool}
    (success : scanner.trimUntil pattern ignoreCase = (.ok (some front), after)) :
    ∃ compiled patterns matched,
      scanner.patterns.compile pattern ignoreCase = .ok (compiled, patterns) ∧
      compiled.pattern.find? scanner.rest =
        some (front.length, front.length + matched.length) ∧
      Takes (front ++ matched) scanner after := by
  obtain ⟨compiled, patterns, compilation, view_eq, after_eq⟩ := trimUntil_eq_ok success
  obtain ⟨matched, behind, found, rest_eq, consumed⟩ := View.trimUntil_split view_eq
  have taken_eq : scanner.rest.take (front.length + matched.length) = front ++ matched := by
    rw [rest, rest_eq, ← List.length_append, List.take_left]
  refine ⟨compiled, patterns, matched, compilation, found, ?_⟩
  rw [← taken_eq]
  exact takes_consume _ consumed (by rw [after_eq])

theorem takes_trimChar {scanner after : Scanner} {expected : Char}
    (success : scanner.trimChar expected = (true, after)) : Takes [expected] scanner after := by
  rcases trimmed : scanner.view.trimChar expected with ⟨taken, view⟩
  rw [trimChar, trimmed] at success
  cases success
  obtain ⟨found, rfl⟩ := View.trimChar_eq_true trimmed
  obtain ⟨behind, rest_eq⟩ := List.head?_eq_some_iff.mp found
  have taken_eq : scanner.rest.take 1 = [expected] := by
    rw [rest, rest_eq]
    rfl
  rw [← taken_eq]
  exact takes_consume 1 rfl rfl

/-- What is read as a character that stands for itself is no backslash. -/
theorem ne_escape {c : Char} {rest : Text} (no_end : c = '\\' → rest = [] → False)
    (no_escape : ∀ d later, c = '\\' → rest = d :: later → False) : c ≠ '\\' := by
  rintro rfl
  cases rest with
  | nil => exact no_end rfl rfl
  | cons d later => exact no_escape d later rfl rfl

/-- The text up to the closing quote alone has the same body. -/
theorem unquote_split {text body behind : Text} (success : unquote? text = some (body, behind)) :
    ∃ string, text = string ++ behind ∧ unquote? string = some (body, []) := by
  fun_induction unquote? text generalizing body behind with
  | case1 => cases success
  | case2 rest =>
      cases success
      exact ⟨['"'], rfl, rfl⟩
  | case3 => cases success
  | case4 c rest ih =>
      obtain ⟨⟨inner, after⟩, read, same⟩ := Option.map_eq_some_iff.mp success
      cases same
      obtain ⟨string, rfl, closed⟩ := ih read
      refine ⟨'\\' :: c :: string, rfl, ?_⟩
      rw [unquote_escaped, closed]
      rfl
  | case5 c rest no_quote no_end no_escape ih =>
      obtain ⟨⟨inner, after⟩, read, same⟩ := Option.map_eq_some_iff.mp success
      cases same
      obtain ⟨string, rfl, closed⟩ := ih read
      refine ⟨c :: string, rfl, ?_⟩
      rw [unquote_plain no_quote (ne_escape no_end no_escape), closed]
      rfl

theorem takes_readString {scanner after : Scanner} {body : Text}
    (success : scanner.readString = (.ok (some body), after)) :
    ∃ string, unquote? string = some (body, []) ∧ Takes ('"' :: string) scanner after ∧
      after.macros = scanner.macros := by
  rw [readString] at success
  split at success
  · next text opened =>
      split at success
      · next inner behind closed =>
          cases success
          obtain ⟨string, rfl, alone⟩ := unquote_split closed
          refine ⟨string, alone, ?_, rfl⟩
          have count_eq : (string ++ behind).length + 1 - behind.length = string.length + 1 := by
            rw [List.length_append]
            omega
          have taken_eq : scanner.rest.take (string.length + 1) = '"' :: string := by
            rw [opened, List.take_succ_cons, List.take_left]
          rw [count_eq, ← taken_eq]
          exact takes_consume (string.length + 1) rfl rfl
      · cases success
  · cases success

theorem takes_readDirective {scanner after : Scanner}
    (success : scanner.readDirective = (.ok true, after)) :
    ∃ string body key replacement, unquote? string = some (body, []) ∧
      Directive.split body = .ok (key, replacement) ∧ Takes ('"' :: string) scanner after ∧
      after.macros = scanner.macros.define key replacement := by
  rw [readDirective] at success
  split at success
  · cases success
  · cases success
  · next body consumed read =>
      obtain ⟨string, closed, takes, macros_eq⟩ := takes_readString read
      split at success
      · next key replacement parts =>
          cases success
          refine ⟨string, body, key, replacement, closed, parts, ?_, ?_⟩
          · exact ⟨takes.rest_eq, takes.buffer_eq, takes.offset_eq, takes.expansions_eq⟩
          · rw [define, macros_eq]
      · cases success

/-! ## Expanding -/

/-- Entering a macro replaces the key in front of the pending text. -/
theorem edits_enter {scanner inner : Scanner} {definition : MacroDefinition}
    (found : scanner.macros.longestMatch? scanner.rest = some definition)
    (begun : scanner.enter? definition.key definition.replacement = some inner) :
    Edits [.splice definition] scanner.pending inner.pending := by
  obtain ⟨behind, rest_eq⟩ := MacroTable.append_of_longestMatch found
  obtain ⟨_, _, _, _, view_eq, frames_eq⟩ := enter_eq_some begun
  have before_eq : scanner.pending =
      definition.key ++ (behind ++ (scanner.expansions.frames.map (·.pending)).flatten) := by
    rw [pending, ahead, List.flatten_cons, ← rest_eq, List.append_assoc]
  have after_eq : inner.pending =
      definition.replacement ++
        (behind ++ (scanner.expansions.frames.map (·.pending)).flatten) := by
    rw [pending, ahead, frames_eq, List.map_cons, List.flatten_cons, List.flatten_cons,
      pending_of_rest rest_eq.symm, rest, view_eq]
    rfl
  rw [before_eq, after_eq]
  exact .single (.splice definition) _

theorem Enters.edits {definitions : List MacroDefinition} {scanner after : Scanner}
    (enters : Enters definitions scanner after) :
    Edits (definitions.map .splice) scanner.pending after.pending := by
  induction enters with
  | nil => exact .nil _
  | cons found begun _ ih => exact (edits_enter found begun).append ih

theorem edits_skip (scanner : Scanner) :
    Edits [.skip (scanner.pending.takeWhile Text.isBlank)] scanner.pending
      scanner.skip.2.pending := by
  have edit := Edits.single (.skip (scanner.pending.takeWhile Text.isBlank))
    (Text.trimStart scanner.pending)
  have parts : (Edit.skip (scanner.pending.takeWhile Text.isBlank)).removed ++
      Text.trimStart scanner.pending = scanner.pending := List.takeWhile_append_dropWhile
  rw [parts] at edit
  rw [pending_skip]
  exact edit

/-! ## Whole runs -/

theorem edits_reachToken (scanner : Scanner) :
    ∃ edits, Edits edits scanner.pending scanner.reachToken.2.pending ∧
      edits.filterMap Edit.token? = [] := by
  obtain ⟨definitions, enters⟩ := enters_expand scanner.skip.2
  have first := (edits_skip scanner).append enters.edits
  have silent : (definitions.map Edit.splice).filterMap Edit.token? = [] := by
    simp [Edit.token?]
  rcases reachToken_cases scanner with reached | reached
  · rw [reached]
    exact ⟨_, first, silent⟩
  · rw [reached]
    refine ⟨_, first.append (edits_skip scanner.skip.2.expand.2), ?_⟩
    rw [List.filterMap_append, List.filterMap_append, silent]
    rfl

theorem Takes.edits {taken : Text} {scanner after : Scanner} (takes : Takes taken scanner after)
    (edit : Edit) (removed_eq : edit.removed = taken) (inserted_eq : edit.inserted = []) :
    Edits [edit] scanner.pending after.pending := by
  have single := Edits.single edit after.pending
  rwa [removed_eq, inserted_eq, ← takes.pending_eq] at single

theorem edits_readDirective (scanner : Scanner) :
    ∃ edits, Edits edits scanner.pending scanner.readDirective.2.pending ∧
      edits.filterMap Edit.token? = [] := by
  rcases read : scanner.readString with ⟨answer, after⟩
  rw [readDirective, read]
  rcases answer with diagnostic | body
  · exact ⟨[], readString_eq_error read ▸ .nil _, rfl⟩
  · rcases body with _ | body
    · exact ⟨[], readString_eq_none read ▸ .nil _, rfl⟩
    · obtain ⟨string, _, takes, _⟩ := takes_readString read
      refine ⟨[.quote ('"' :: string)], ?_, rfl⟩
      have edits := takes.edits (.quote ('"' :: string)) rfl rfl
      dsimp only
      split <;> exact edits

theorem edits_takeToken (scanner : Scanner) :
    ∃ edits, Edits edits scanner.pending scanner.takeToken.scanner.pending ∧
      edits.filterMap Edit.token? = scanner.takeToken.token?.toList.map (·.text) := by
  rcases trimmed : scanner.trim Token.pattern false with ⟨answer, after⟩
  rw [takeToken, trimmed]
  rcases answer with diagnostic | taken
  · exact ⟨[], trim_eq_error trimmed ▸ .nil _, rfl⟩
  · rcases taken with _ | text
    · have same : after.pending = scanner.pending := by
        obtain ⟨compiled, patterns, _, view_eq, after_eq⟩ := trim_eq_ok trimmed
        rw [after_eq, View.trim_eq_none view_eq]
        rfl
      exact ⟨[], same ▸ .nil _, rfl⟩
    · exact ⟨[.token text], (takes_trim trimmed).edits (.token text) rfl rfl, rfl⟩

theorem edits_round (scanner : Scanner) :
    ∃ edits, Edits edits scanner.pending scanner.round.scanner.pending ∧
      edits.filterMap Edit.token? = scanner.round.token?.toList.map (·.text) := by
  obtain ⟨reaching, reached_edits, reached_silent⟩ := edits_reachToken scanner
  obtain ⟨reading, read_edits, read_silent⟩ := edits_readDirective scanner.reachToken.2
  have edits := reached_edits.append read_edits
  have silent : (reaching ++ reading).filterMap Edit.token? = [] := by
    rw [List.filterMap_append, reached_silent, read_silent]
    rfl
  rcases round_cases scanner with ⟨ended, no_token⟩ | ⟨ended, no_token⟩ | ended
  · rw [ended, no_token]
    exact ⟨reaching, reached_edits, reached_silent⟩
  · rw [ended, no_token]
    exact ⟨reaching ++ reading, edits, silent⟩
  · obtain ⟨taking, token_edits, tokens_eq⟩ := edits_takeToken scanner.reachToken.2.readDirective.2
    rw [ended]
    refine ⟨(reaching ++ reading) ++ taking, edits.append token_edits, ?_⟩
    rw [List.filterMap_append, silent, tokens_eq]
    rfl

/-- A scan edits the pending text, and the tokens it takes off are those it answers. -/
theorem edits_scanFrom (taken : List Token) (scanner : Scanner) :
    ∃ edits, Edits edits scanner.pending (scanFrom taken scanner).2.pending ∧
      ∀ tokens, (scanFrom taken scanner).1 = .ok tokens →
        tokens.map (·.text) =
          taken.reverse.map (·.text) ++ edits.filterMap Edit.token? := by
  fun_induction scanFrom taken scanner with
  | case1 taken scanner diagnostic after ended =>
      obtain ⟨edits, round_edits, _⟩ := edits_round scanner
      rw [ended] at round_edits
      exact ⟨edits, round_edits, fun _ failed => by cases failed⟩
  | case2 taken scanner after ended =>
      obtain ⟨edits, round_edits, tokens_eq⟩ := edits_round scanner
      rw [ended] at round_edits tokens_eq
      refine ⟨edits, round_edits, fun tokens success => ?_⟩
      cases success
      rw [tokens_eq]
      exact (List.append_nil _).symm
  | case3 taken scanner token after ended ih =>
      obtain ⟨front, round_edits, tokens_eq⟩ := edits_round scanner
      rw [ended] at round_edits tokens_eq
      obtain ⟨back, later_edits, later_tokens⟩ := ih
      refine ⟨front ++ back, round_edits.append later_edits, fun tokens success => ?_⟩
      rw [later_tokens tokens success, List.filterMap_append, tokens_eq]
      cases token <;> simp [Round.token?]

/-! ## The law of the pending text -/

/-- Passing over blanks ends in front of content, or behind the last text. -/
theorem ahead_skip_shape (scanner : Scanner) :
    ¬ scanner.skip.2.rest.BlankLed ∨ scanner.skip.2.rest = [] ∧ scanner.skip.2.depth = 0 := by
  have settled := ahead_skip scanner
  obtain ⟨front, others, shape, content | ⟨rfl, rfl⟩⟩ :=
    settle_shape scanner.rest (scanner.expansions.frames.map (·.pending))
  · rw [ahead, ahead, shape] at settled
    obtain ⟨rest_eq, _⟩ := List.cons.inj settled
    exact .inl (rest_eq ▸ content)
  · rw [ahead, ahead, shape] at settled
    obtain ⟨rest_eq, frames_eq⟩ := List.cons.inj settled
    exact .inr ⟨rest_eq, List.length_eq_zero_iff.mpr (List.map_eq_nil_iff.mp frames_eq)⟩

/-- The gate opens in front of content. -/
theorem content_of_open {scanner reached : Scanner}
    (opened : scanner.reachToken = (.ok true, reached)) : ¬ reached.rest.BlankLed := by
  obtain ⟨definitions, expanded, _, _, rfl, available⟩ := reachToken_eq_ok opened
  rcases ahead_skip_shape expanded with content | ⟨rest_nil, _⟩
  · exact content
  · have exhausted : expanded.skip.2.isExhausted = true := List.isEmpty_iff.mpr rest_nil
    rw [exhausted] at available
    cases available

/-- The gate closes where nothing is left and no macro is being expanded. -/
theorem ended_of_closed {scanner reached : Scanner}
    (closed : scanner.reachToken = (.ok false, reached)) :
    reached.rest = [] ∧ reached.depth = 0 := by
  obtain ⟨definitions, expanded, _, _, rfl, available⟩ := reachToken_eq_ok closed
  have exhausted : expanded.skip.2.rest = [] := by
    rw [eq_comm, Bool.not_eq_false'] at available
    exact List.isEmpty_iff.mp available
  rcases ahead_skip_shape expanded with content | ended
  · rw [exhausted] at content
    exact absurd Text.blankLed_nil content
  · exact ended

theorem pending_of_no_token {scanner reached : Scanner}
    (closed : scanner.reachToken = (.ok false, reached)) : reached.pending = [] := by
  obtain ⟨exhausted, outside⟩ := ended_of_closed closed
  rw [pending, ahead, exhausted, List.length_eq_zero_iff.mp outside]
  rfl

theorem pending_scanFrom {taken tokens : List Token} {scanner after : Scanner}
    (success : scanFrom taken scanner = (.ok tokens, after)) : after.pending = [] := by
  fun_induction scanFrom taken scanner with
  | case1 => cases success
  | case2 taken scanner after ended =>
      cases success
      exact pending_of_no_token (round_eq_finished ended)
  | case3 taken scanner token after ended ih => exact ih success

theorem Enters.keys_eq {definitions : List MacroDefinition} {scanner after : Scanner}
    (enters : Enters definitions scanner after) :
    after.expansions.keys = scanner.expansions.keys ++ definitions.map (·.key) := by
  induction enters with
  | nil => exact (List.append_nil _).symm
  | cons found begun later ih =>
      obtain ⟨_, _, _, _, _, frames_eq⟩ := enter_eq_some begun
      rw [ih, Expansions.keys, Expansions.keys, frames_eq]
      simp

/-- A key is refused because it is being expanded. -/
theorem mem_keys_of_refused {scanner : Scanner} {key replacement : Text}
    (refused : scanner.enter? key replacement = none) : key ∈ scanner.expansions.keys := by
  rw [enter?, Option.map_eq_none_iff] at refused
  rw [Expansions.push?] at refused
  split at refused
  · next active => exact List.mem_reverse.mpr (Expansions.isActive_iff.mp active)
  · cases refused

/-- Whatever is read, the pending text changes as if every replacement had been written into the
place of its key. -/
structure SplicesText (scanner : Scanner) : Prop where
  /-- Passing over blanks takes exactly the blanks in front. -/
  skip_pending : scanner.skip.2.pending = Text.trimStart scanner.pending
  /-- It tells whether there were any. -/
  skip_flag : scanner.skip.1 = true ↔ scanner.pending.takeWhile Text.isBlank ≠ []
  /-- It ends in front of a character that is no blank, or at the end of the source. -/
  skip_ends :
    (∃ c rest, scanner.skip.2.rest = c :: rest ∧ Text.isBlank c = false) ∨
      scanner.skip.2.depth = 0 ∧ scanner.skip.2.buffer = scanner.source ∧
        scanner.skip.2.isExhausted = true
  /-- Leaving an exhausted expansion changes nothing. -/
  exit_pending {outer : Scanner} (exhausted : scanner.isExhausted = true)
    (left : scanner.exit? = some outer) : outer.pending = scanner.pending
  /-- Expanding replaces the keys it enters, in their order, and a cycle stops it in front of a key
  that is being expanded. -/
  expand_pending : ∃ definitions, Enters definitions scanner scanner.expand.2 ∧
    Edits (definitions.map .splice) scanner.pending scanner.expand.2.pending ∧
    (∀ count, scanner.expand.1 = .ok count → count = definitions.length) ∧
    ∀ cycle, scanner.expand.1 = .error cycle →
      cycle.chain = scanner.expansions.keys ++ definitions.map (·.key) ∧
        cycle.key ∈ cycle.chain ∧ cycle.key <+: scanner.expand.2.rest
  /-- The match of a pattern is taken off. -/
  trim_pending {pattern taken : Text} {ignoreCase : Bool} {after : Scanner}
    (success : scanner.trim pattern ignoreCase = (.ok (some taken), after)) :
    Takes taken scanner after ∧ scanner.pending = taken ++ after.pending
  /-- What is in front of the match is taken off together with the match. -/
  trimUntil_pending {pattern front : Text} {ignoreCase : Bool} {after : Scanner}
    (success : scanner.trimUntil pattern ignoreCase = (.ok (some front), after)) :
    ∃ compiled patterns matched,
      scanner.patterns.compile pattern ignoreCase = .ok (compiled, patterns) ∧
      compiled.pattern.find? scanner.rest =
        some (front.length, front.length + matched.length) ∧
      Takes (front ++ matched) scanner after ∧
      scanner.pending = front ++ matched ++ after.pending
  /-- The expected character is taken off. -/
  trimChar_pending {expected : Char} {after : Scanner}
    (success : scanner.trimChar expected = (true, after)) :
    Takes [expected] scanner after ∧ scanner.pending = expected :: after.pending
  /-- A directive is taken off with both of its quotes. -/
  readDirective_pending {after : Scanner} (success : scanner.readDirective = (.ok true, after)) :
    ∃ string body key replacement, unquote? string = some (body, []) ∧
      Directive.split body = .ok (key, replacement) ∧
      after.macros = scanner.macros.define key replacement ∧
      Takes ('"' :: string) scanner after ∧ scanner.pending = '"' :: string ++ after.pending
  /-- A whole scan edits the pending text, and what it takes off as tokens it answers. -/
  scan_pending : ∃ edits, Edits edits scanner.pending scanner.scanTokens.2.pending ∧
    ∀ tokens, scanner.scanTokens.1 = .ok tokens →
      scanner.scanTokens.2.pending = [] ∧ tokens.map (·.text) = edits.filterMap Edit.token?

theorem expand_pending (scanner : Scanner) :
    ∃ definitions, Enters definitions scanner scanner.expand.2 ∧
      Edits (definitions.map .splice) scanner.pending scanner.expand.2.pending ∧
      (∀ count, scanner.expand.1 = .ok count → count = definitions.length) ∧
      ∀ cycle, scanner.expand.1 = .error cycle →
        cycle.chain = scanner.expansions.keys ++ definitions.map (·.key) ∧
          cycle.key ∈ cycle.chain ∧ cycle.key <+: scanner.expand.2.rest := by
  rcases expansion : scanner.expand with ⟨answer, after⟩
  cases answer with
  | ok count =>
      obtain ⟨definitions, enters, count_eq, _⟩ := enters_of_expandFrom.1 expansion
      refine ⟨definitions, enters, enters.edits, fun other same => ?_, fun _ failed => ?_⟩
      · cases same
        omega
      · cases failed
  | error cycle =>
      obtain ⟨definitions, definition, enters, found, refused, rfl⟩ :=
        enters_of_expandFrom.2 expansion
      refine ⟨definitions, enters, enters.edits, fun _ success => ?_, fun other same => ?_⟩
      · cases success
      · cases same
        exact ⟨enters.keys_eq, mem_keys_of_refused refused,
          MacroTable.append_of_longestMatch found⟩

/-- Swapping buffers is the same as writing replacements into the text. -/
theorem Reachable.splicesText {scanner : Scanner} (reachable : scanner.Reachable) :
    scanner.SplicesText where
  skip_pending := pending_skip scanner
  skip_flag := by
    rw [skip, skipFrom_eq_true_iff]
    simp
  skip_ends := by
    have skipped : scanner.skip.2.Reachable := .step .skip reachable
    have source_eq := (moves_skipFrom false scanner).source_eq
    rcases ahead_skip_shape scanner with content | ⟨exhausted, outside⟩
    · cases shape : scanner.skip.2.rest with
      | nil =>
          rw [shape] at content
          exact absurd Text.blankLed_nil content
      | cons c rest =>
          rw [shape, Text.blankLed_cons, Bool.not_eq_true] at content
          exact .inl ⟨c, rest, rfl, content⟩
    · refine .inr ⟨outside, ?_, List.isEmpty_iff.mpr exhausted⟩
      exact (skipped.buffer_eq_source outside).trans source_eq
  exit_pending := pending_exit
  expand_pending := expand_pending scanner
  trim_pending success := ⟨takes_trim success, (takes_trim success).pending_eq⟩
  trimUntil_pending success := by
    obtain ⟨compiled, patterns, matched, compilation, found, takes⟩ := takes_trimUntil success
    exact ⟨compiled, patterns, matched, compilation, found, takes, takes.pending_eq⟩
  trimChar_pending success := ⟨takes_trimChar success, (takes_trimChar success).pending_eq⟩
  readDirective_pending success := by
    obtain ⟨string, body, key, replacement, closed, parts, takes, macros_eq⟩ :=
      takes_readDirective success
    exact ⟨string, body, key, replacement, closed, parts, macros_eq, takes, takes.pending_eq⟩
  scan_pending := by
    obtain ⟨edits, scan_edits, tokens_eq⟩ := edits_scanFrom [] scanner
    refine ⟨edits, scan_edits, fun tokens success => ⟨?_, tokens_eq tokens success⟩⟩
    have scanned : scanFrom [] scanner = (.ok tokens, scanner.scanTokens.2) := Prod.ext success rfl
    exact pending_scanFrom scanned

/-- A macro inside another, both being expanded. -/
def nestedMacros : Scanner :=
  (((ofText "A;".toList).define "A".toList "B!".toList).define "B".toList "deep".toList).expand.2

theorem splicesText_nestedMacros :
    nestedMacros.Reachable ∧ nestedMacros.pending = "deep!;".toList ∧
      nestedMacros.SplicesText := by
  have reachable : nestedMacros.Reachable :=
    .step .expand
      (.step (.define "B".toList "deep".toList)
        (.step (.define "A".toList "B!".toList) (.fresh "A;".toList .empty)))
  have pending_eq : nestedMacros.pending = "deep!;".toList := by decide +kernel
  exact ⟨reachable, pending_eq, reachable.splicesText⟩

end Scanner
end MmlScan
