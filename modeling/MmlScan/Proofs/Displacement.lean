import MmlScan.Command.Run
import MmlScan.Proofs.Directive

/-!
# Text in front of a source

When another text stands in front of a source, a scanner that is behind that text reads on as if it
were not there.  Places in the source lie further back, by the size and the newlines of the text in
front, and places in replacements stay.  This holds of the scanner itself, of the tokens it takes,
and of the reports on what it cannot read.

So a definition that is written as a directive in front of a source, and the same definition given
beforehand, lead to the same tokens.
-/

namespace MmlScan

/-- Behind a text that fits, a cut falls where it falls without that text. -/
theorem Text.splitAt_append_add (front back : Text) (offset : Nat) :
    splitAt (front ++ back) (size front + offset) =
      (front ++ (splitAt back offset).1, (splitAt back offset).2) := by
  rw [splitAt_append_of_le front back (Nat.le_add_right _ _), Nat.add_sub_cancel_left, splitAt,
    List.splitAt_eq]

/-! ## Views -/

namespace View

/-- The view behind a text in front of its buffer. -/
def behind (front : Text) (view : View) : View :=
  between (front ++ view.past.reverse) view.rest (Text.size front + view.mark)

variable (front : Text) (view : View)

theorem consume_ofText (back : Text) :
    (ofText (front ++ back)).consume front.length = between front back 0 := by
  refine eq_of_parts ?_ ?_ rfl
  · simp [ofText, between, consume, archive, forward]
  · rw [rest_consume]
    exact List.drop_left

theorem behind_ofText (text : Text) :
    (ofText text).behind front = between front text (Text.size front) :=
  eq_of_parts (by simp [behind, ofText, between]) rfl rfl

@[simp]
theorem rest_behind : (view.behind front).rest = view.rest := rfl

@[simp]
theorem offset_behind : (view.behind front).offset = Text.size front + view.offset := by
  rw [view.offset_eq]
  simp [behind, between]

@[simp]
theorem line_behind : (view.behind front).line = view.line + front.count '\n' := by
  rw [view.line_eq]
  simp [behind, between, Text.lineAfter]
  omega

@[simp]
theorem buffer_behind : (view.behind front).buffer = front ++ view.buffer := by
  rw [behind, buffer_between, buffer, List.append_assoc]

theorem archive_behind : (view.behind front).archive = view.archive.behind front :=
  eq_of_parts rfl rfl (view.offset_behind front)

theorem consume_behind (count : Nat) :
    (view.behind front).consume count = (view.consume count).behind front := by
  refine eq_of_parts ?_ rfl (view.offset_behind front)
  simp [behind, between, consume, archive, forward]

theorem trim_behind (pattern : Pattern) :
    (view.behind front).trim pattern =
      ((view.trim pattern).1, (view.trim pattern).2.behind front) := by
  rw [trim, trim, rest_behind]
  split
  · rw [consume_behind]
  · rw [archive_behind]

theorem reposition_behind (offset : Nat) :
    (view.behind front).reposition (Text.size front + offset) =
      (view.reposition offset).behind front := by
  have cut : ((view.behind front).moveTo (Text.size front + offset)) =
      (view.moveTo offset).behind front := by
    rw [moveTo_eq, moveTo_eq, buffer_behind, Text.splitAt_append_add]
    exact eq_of_parts (by simp [behind, between]) rfl rfl
  rw [reposition, cut, archive_behind]
  rfl

end View

/-! ## Tokens and reports -/

/-- The token when a text stands in front of the source. -/
def Token.behind (front : Text) (token : Token) : Token :=
  if token.depth = 0 then
    { token with line := token.line + front.count '\n', offset := Text.size front + token.offset }
  else token

/-- The report when a text stands in front of the source, which it may point into. -/
def Diagnostic.behind (front : Text) (diagnostic : Diagnostic) : Diagnostic :=
  if diagnostic.source.map (·.name) = some "source" then
    { diagnostic with
        source := diagnostic.source.map fun named => ⟨named.name, front ++ named.text⟩
        span := diagnostic.span.map fun span =>
          ⟨Text.size front + span.start, Text.size front + span.stop⟩
        line := diagnostic.line.map (· + front.count '\n') }
  else diagnostic

@[simp]
theorem Diagnostic.kind_behind (front : Text) (diagnostic : Diagnostic) :
    (diagnostic.behind front).kind = diagnostic.kind := by
  rw [behind]
  split <;> rfl

@[simp]
theorem Diagnostic.message_behind (front : Text) (diagnostic : Diagnostic) :
    (diagnostic.behind front).message = diagnostic.message := by
  rw [behind]
  split <;> rfl

/-! ## Expansions -/

/-- The expansion of a key that was met behind a text in front. -/
def Expansion.behind (front : Text) (frame : Expansion) : Expansion :=
  ⟨frame.key, frame.enclosing.behind front, Text.size front + frame.resume⟩

/-- Only the outermost expansion was met in the source. -/
def Expansion.outermostBehind (front : Text) : List Expansion → List Expansion
  | [] => []
  | [frame] => [frame.behind front]
  | frame :: next :: frames => frame :: outermostBehind front (next :: frames)

theorem Expansion.map_key_outermostBehind (front : Text) (frames : List Expansion) :
    (outermostBehind front frames).map (·.key) = frames.map (·.key) := by
  induction frames with
  | nil => rfl
  | cons frame frames ih =>
      cases frames with
      | nil => rfl
      | cons next frames => exact congrArg (frame.key :: ·) ih

/-- The expansions behind a text in front of the source. -/
def Expansions.behind (front : Text) (expansions : Expansions) : Expansions :=
  ⟨Expansion.outermostBehind front expansions.frames, by
    rw [Expansion.map_key_outermostBehind]
    exact expansions.distinct⟩

namespace Expansions

variable (front : Text) (expansions : Expansions)

theorem push_behind (frame : Expansion) :
    (expansions.behind front).push? (if expansions.depth = 0 then frame.behind front else frame) =
      (expansions.push? frame).map (·.behind front) := by
  have key_eq : (if expansions.depth = 0 then frame.behind front else frame).key = frame.key := by
    split <;> rfl
  have active_iff : (expansions.behind front).isActive frame.key = true ↔
      expansions.isActive frame.key = true := by
    rw [isActive_iff, isActive_iff, behind, Expansion.map_key_outermostBehind]
  rw [push?, push?]
  by_cases active : expansions.isActive frame.key = true
  · rw [dif_pos active, dif_pos (by rwa [key_eq, active_iff])]
    rfl
  · rw [dif_neg active, dif_neg (by rwa [key_eq, active_iff])]
    refine congrArg some (eq_of_frames ?_)
    obtain ⟨frames, distinct⟩ := expansions
    cases frames <;> rfl

theorem depth_push {expansions inner : Expansions} {frame : Expansion}
    (pushed : expansions.push? frame = some inner) : inner.depth = expansions.depth + 1 := by
  rw [push?] at pushed
  split at pushed
  · cases pushed
  · cases pushed
    rfl

theorem pop_behind :
    (expansions.behind front).pop? = expansions.pop?.map fun (frame, outer) =>
      (if outer.depth = 0 then frame.behind front else frame, outer.behind front) := by
  obtain ⟨frames, distinct⟩ := expansions
  match frames with
  | [] => rfl
  | [frame] => rfl
  | frame :: next :: frames => rfl

end Expansions

namespace Scanner

/-- The scanner behind a text in front of its source. -/
def behind (front : Text) (scanner : Scanner) : Scanner :=
  { scanner with
      source := front ++ scanner.source
      view := if scanner.depth = 0 then scanner.view.behind front else scanner.view
      expansions := scanner.expansions.behind front }

/-- Where an offset of the buffer lies behind a text in front of the source. -/
def shift (front : Text) (scanner : Scanner) (offset : Nat) : Nat :=
  if scanner.depth = 0 then Text.size front + offset else offset

variable (front : Text) (scanner : Scanner)

theorem rest_behind : (scanner.behind front).rest = scanner.rest := by
  rw [rest, behind]
  dsimp only
  split <;> rfl

theorem offset_behind : (scanner.behind front).offset = scanner.shift front scanner.offset := by
  rw [offset, behind, shift]
  dsimp only
  split
  · exact scanner.view.offset_behind front
  · rfl

theorem size_buffer_behind :
    Text.size (scanner.behind front).buffer = scanner.shift front (Text.size scanner.buffer) := by
  rw [buffer, behind, shift]
  dsimp only
  split
  · rw [View.buffer_behind, Text.size_append]
    rfl
  · rfl

theorem depth_behind : (scanner.behind front).depth = scanner.depth := by
  have lengths := congrArg List.length
    (Expansion.map_key_outermostBehind front scanner.expansions.frames)
  rwa [List.length_map, List.length_map] at lengths

theorem keys_behind : (scanner.behind front).expansions.keys = scanner.expansions.keys :=
  congrArg List.reverse (Expansion.map_key_outermostBehind front scanner.expansions.frames)

theorem consume_behind (count : Nat) :
    (scanner.behind front).withView ((scanner.behind front).view.consume count) =
      (scanner.withView (scanner.view.consume count)).behind front := by
  have view_eq : (scanner.behind front).view.consume count =
      if scanner.depth = 0 then (scanner.view.consume count).behind front
      else scanner.view.consume count := by
    rw [behind]
    dsimp only
    split
    · exact scanner.view.consume_behind front count
    · rfl
  rw [view_eq]
  rfl

theorem enter_behind (key replacement : Text) :
    (scanner.behind front).enter? key replacement =
      (scanner.enter? key replacement).map (·.behind front) := by
  have frame_eq : (⟨key, (scanner.behind front).view,
      (scanner.behind front).offset + Text.size key⟩ : Expansion) =
        if scanner.depth = 0 then
          Expansion.behind front ⟨key, scanner.view, scanner.offset + Text.size key⟩
        else ⟨key, scanner.view, scanner.offset + Text.size key⟩ := by
    rw [offset_behind, behind, shift]
    split
    · rw [Expansion.behind, Nat.add_assoc]
    · rfl
  have pushed_behind := scanner.expansions.push_behind front
    ⟨key, scanner.view, scanner.offset + Text.size key⟩
  rw [enter?, enter?, frame_eq, Option.map_map]
  refine (congrArg (Option.map _) pushed_behind).trans ?_
  rw [Option.map_map]
  refine Option.map_congr fun inner pushed => ?_
  have inside :
      Scanner.depth { scanner with view := .ofText replacement, expansions := inner } ≠ 0 := by
    rw [depth, Expansions.depth_push pushed]
    exact Nat.succ_ne_zero _
  rw [Function.comp_apply, Function.comp_apply, behind, behind, if_neg inside]

theorem exit_behind :
    (scanner.behind front).exit? = scanner.exit?.map (·.behind front) := by
  have popped := scanner.expansions.pop_behind front
  rw [exit?, exit?, Option.map_map]
  refine (congrArg (Option.map _) popped).trans ?_
  rw [Option.map_map]
  apply Option.map_congr
  rintro ⟨frame, outer⟩ _
  have view_eq : View.reposition (if outer.depth = 0 then frame.behind front else frame).enclosing
      (if outer.depth = 0 then frame.behind front else frame).resume =
        if outer.depth = 0 then (frame.enclosing.reposition frame.resume).behind front
        else frame.enclosing.reposition frame.resume := by
    split
    · exact frame.enclosing.reposition_behind front frame.resume
    · rfl
  rw [Function.comp_apply, Function.comp_apply, behind, behind]
  dsimp only
  rw [view_eq]
  rfl

/-- The gate does not notice a text in front of the source. -/
theorem transparent_behind : Transparent (behind front) where
  rest_eq := rest_behind front
  macros_eq _ := rfl
  keys_eq := keys_behind front
  consume_eq := consume_behind front
  enter_eq := enter_behind front
  exit_eq := exit_behind front

/-! ## Reports -/

theorem namedBuffer_of_outside {scanner : Scanner} (outside : scanner.depth = 0) :
    scanner.namedBuffer = ⟨"source", scanner.buffer⟩ := by
  have frames_nil : scanner.expansions.frames = [] := List.length_eq_zero_iff.mp outside
  rw [namedBuffer, Expansions.innermost?, frames_nil]
  rfl

theorem namedBuffer_of_inside {scanner : Scanner} (inside : scanner.depth ≠ 0) :
    scanner.namedBuffer.name ≠ "source" := by
  cases shape : scanner.expansions.frames with
  | nil => exact absurd (congrArg List.length shape) inside
  | cons frame frames =>
      intro same
      rw [namedBuffer, Expansions.innermost?, shape] at same
      -- the name of a replacement begins with an angle bracket
      have characters := congrArg String.toList same
      simp at characters

theorem innermost_behind :
    (scanner.behind front).expansions.innermost? = scanner.expansions.innermost? := by
  have heads := congrArg List.head?
    (Expansion.map_key_outermostBehind front scanner.expansions.frames)
  rwa [List.head?_map, List.head?_map] at heads

theorem shift_add (start length : Nat) :
    scanner.shift front (start + length) = scanner.shift front start + length := by
  rw [shift, shift]
  split
  · rw [Nat.add_assoc]
  · rfl

theorem located_behind (kind : DiagnosticKind) (message : String) (start stop : Nat)
    (help : Option String) :
    Diagnostic.located kind message (scanner.behind front).namedBuffer
        ⟨scanner.shift front start, scanner.shift front stop⟩ (scanner.behind front).line help =
      (Diagnostic.located kind message scanner.namedBuffer ⟨start, stop⟩ scanner.line
        help).behind front := by
  by_cases outside : scanner.depth = 0
  · have view_eq : (scanner.behind front).view = scanner.view.behind front := if_pos outside
    rw [namedBuffer_of_outside outside,
      namedBuffer_of_outside ((scanner.depth_behind front).trans outside), buffer, line, view_eq,
      View.buffer_behind, View.line_behind, shift, shift, if_pos outside, if_pos outside]
    rfl
  · have view_eq : (scanner.behind front).view = scanner.view := if_neg outside
    have same_name : (scanner.behind front).namedBuffer = scanner.namedBuffer := by
      rw [namedBuffer, namedBuffer, innermost_behind, buffer, view_eq]
      rfl
    rw [same_name, line, view_eq, shift, shift, if_neg outside, if_neg outside,
      Diagnostic.behind, if_neg]
    · rfl
    · exact fun same => namedBuffer_of_inside outside (Option.some.inj same)

theorem malformed_behind (message : String) (start stop : Nat) :
    (scanner.behind front).malformed message (scanner.shift front start)
        (scanner.shift front stop) =
      (scanner.malformed message start stop).behind front :=
  scanner.located_behind front .malformed message start stop none

theorem cycleReport_behind (cycle : MacroCycle) :
    (scanner.behind front).cycleReport cycle = (scanner.cycleReport cycle).behind front := by
  rw [cycleReport, offset_behind, ← shift_add]
  exact scanner.located_behind front _ _ _ _ _

/-! ## Rounds -/

theorem trim_behind (pattern : Text) (ignoreCase : Bool) :
    (scanner.behind front).trim pattern ignoreCase =
      ((scanner.trim pattern ignoreCase).1,
        (scanner.trim pattern ignoreCase).2.behind front) := by
  have trimmed (pattern : Pattern) : (scanner.behind front).view.trim pattern =
      ((scanner.view.trim pattern).1,
        if scanner.depth = 0 then (scanner.view.trim pattern).2.behind front
        else (scanner.view.trim pattern).2) := by
    rw [behind]
    dsimp only
    split
    · exact scanner.view.trim_behind front pattern
    · rfl
  have patterns_eq : (scanner.behind front).patterns = scanner.patterns := rfl
  rw [trim, trim, patterns_eq]
  split
  · rfl
  · next compiled patterns compilation =>
      dsimp only
      rw [trimmed]
      rfl

theorem readString_behind :
    (scanner.behind front).readString =
      (scanner.readString.1.mapError (·.behind front), scanner.readString.2.behind front) := by
  rw [readString, readString, rest_behind]
  split
  · split
    · rw [consume_behind]
      rfl
    · dsimp only
      rw [offset_behind, size_buffer_behind, malformed_behind]
      rfl
  · rfl

theorem shift_of_expansions {scanner after : Scanner}
    (same : after.expansions = scanner.expansions) : after.shift front = scanner.shift front := by
  have depth_eq : after.depth = scanner.depth := congrArg Expansions.depth same
  funext offset
  rw [shift, shift, depth_eq]

theorem readDirective_behind :
    (scanner.behind front).readDirective =
      (scanner.readDirective.1.mapError (·.behind front),
        scanner.readDirective.2.behind front) := by
  rw [readDirective, readDirective, readString_behind]
  rcases read : scanner.readString with ⟨answer, after⟩
  rcases answer with diagnostic | _ | body
  · rfl
  · rfl
  · obtain ⟨_, _, takes, _⟩ := takes_readString read
    rcases parts : Directive.split body with problem | ⟨key, replacement⟩
    · simp only [Except.mapError, parts]
      rw [offset_behind, offset_behind, ← shift_of_expansions front takes.expansions_eq,
        malformed_behind]
    · simp only [Except.mapError, parts]
      rfl

/-- The round behind a text in front of the source. -/
def Round.behind (front : Text) : Round → Round
  | .failed diagnostic after => .failed (diagnostic.behind front) (after.behind front)
  | .finished after => .finished (after.behind front)
  | .advanced token after => .advanced (token.map (·.behind front)) (after.behind front)

theorem token_behind (text : Text) :
    (⟨text, (scanner.behind front).line, (scanner.behind front).offset,
      (scanner.behind front).depth⟩ : Token) =
        Token.behind front ⟨text, scanner.line, scanner.offset, scanner.depth⟩ := by
  rw [offset_behind, depth_behind, line, behind, shift, Token.behind]
  dsimp only
  split
  · rw [View.line_behind]
    rfl
  · rfl

theorem takeToken_behind :
    (scanner.behind front).takeToken = scanner.takeToken.behind front := by
  rw [takeToken, takeToken, trim_behind]
  rcases trimmed : scanner.trim Token.pattern false with ⟨answer, after⟩
  rcases answer with diagnostic | _ | text
  · -- the pattern of tokens is never refused
    obtain ⟨patterns, trims⟩ := scanner.trim_of_parse Pattern.parse_token
    rw [trims] at trimmed
    cases trimmed
  · obtain ⟨_, _, _, _, after_eq⟩ := trim_eq_ok trimmed
    have expansions_eq : after.expansions = scanner.expansions := by rw [after_eq]
    dsimp only
    rw [offset_behind, ← shift_of_expansions front expansions_eq, malformed_behind]
    rfl
  · dsimp only
    rw [token_behind]
    rfl

theorem round_behind : (scanner.behind front).round = scanner.round.behind front := by
  rw [round, round]
  rcases (transparent_behind front).reachToken scanner with
    ⟨available, reached, opened, other⟩ | ⟨cycle, stuck, stopped, other⟩
  · rw [opened, other]
    cases available with
    | false => rfl
    | true =>
        dsimp only
        rw [readDirective_behind]
        rcases reached.readDirective with ⟨answer, after⟩
        rcases answer with diagnostic | taken
        · rfl
        · cases taken with
          | false => exact after.takeToken_behind front
          | true => rfl
  · rw [stopped, other, cycleReport_behind]
    rfl

/-- A scan behind a text in front of the source has the same tokens and reports, with the places in
the source further back. -/
theorem scanFrom_behind (taken : List Token) :
    scanFrom (taken.map (·.behind front)) (scanner.behind front) =
      (((scanFrom taken scanner).1.map (·.map (·.behind front))).mapError (·.behind front),
        (scanFrom taken scanner).2.behind front) := by
  fun_induction scanFrom taken scanner with
  | case1 taken scanner diagnostic after ended =>
      rw [scanFrom_eq, round_behind, ended]
      rfl
  | case2 taken scanner after ended =>
      rw [scanFrom_eq, round_behind, ended, Round.behind]
      dsimp only
      rw [← List.map_reverse]
      rfl
  | case3 taken scanner token after ended ih =>
      rw [scanFrom_eq, round_behind, ended, Round.behind]
      dsimp only
      rw [← ih, List.map_append]
      cases token <;> rfl

/-! ## Definitions in front -/

/-- What is remembered makes no difference to a scan. -/
theorem scanFrom_archive (taken : List Token) :
    scanFrom taken (scanner.withView scanner.view.archive) = scanFrom taken scanner := by
  have blanks_eq : (scanner.withView scanner.view.archive).skipBlanks = scanner.skipBlanks := rfl
  have skip_eq : (scanner.withView scanner.view.archive).skip = scanner.skip := by
    rw [skip, skip, skipFrom.eq_def, skipFrom.eq_def false scanner, blanks_eq]
  have round_eq : (scanner.withView scanner.view.archive).round = scanner.round := by
    rw [round, round, reachToken, reachToken, skip_eq]
  rw [scanFrom_eq, round_eq, ← scanFrom_eq]

/-- Behind its directive a definition is as if it had been given beforehand. -/
theorem scanTokens_directive {body source key replacement : Text}
    (parts : Directive.split body = .ok (key, replacement))
    (unmarked : source.head? ≠ some '\ufeff') :
    (Command.scannerOf [] (Directive.write body ++ source)).scanTokens =
      scanFrom [] ((Command.scannerOf [(key, replacement)] source).behind
        (Directive.write body)) := by
  let inside := Command.scannerOf [] (Directive.write body ++ source)
  let outside := (Command.scannerOf [(key, replacement)] source).behind (Directive.write body)
  let view := View.between (Directive.write body) source 0
  have source_eq : withoutByteOrderMark source = source := by
    rw [withoutByteOrderMark.eq_def]
    split
    · exact absurd rfl unmarked
    · rfl
  have rest_eq : inside.rest = [] ++ '"' :: ((Text.escape body ++ ['"']) ++ source) := rfl
  have view_eq : (inside.view.consume 0).consume ((Text.escape body ++ ['"']).length + 1) = view :=
    View.consume_ofText (Directive.write body) source
  have taken_off : inside.round =
      .advanced none ((inside.withView view).define key replacement) := by
    rw [← view_eq]
    exact round_of_directive rest_eq (by simp) (quoted_escape body) parts fun _ member => by
      cases member
  have outside_eq : outside = (inside.withView (.between (Directive.write body) source
      (Text.size (Directive.write body)))).define key replacement := by
    change Scanner.mk (Directive.write body ++ withoutByteOrderMark source)
      ((View.ofText (withoutByteOrderMark source)).behind (Directive.write body)) _ _ _ = _
    rw [source_eq, View.behind_ofText]
    rfl
  calc inside.scanTokens
      = scanFrom [] ((inside.withView view).define key replacement) := by
        rw [scanTokens, scanFrom_eq, taken_off]
        rfl
    _ = scanFrom [] outside := by
        rw [outside_eq, ← scanFrom_archive, ← scanFrom_archive ((inside.withView _).define _ _)]
        rfl

/-- A definition on the command line is the same as a directive in front of the source.  Both lead
to the same tokens and macros, or to a failure of one kind with one message; only the places in the
source lie further back behind the directive. -/
theorem definition_is_leading_directive {body source key replacement : Text}
    (name : Option Command.Name) (parts : Directive.split body = .ok (key, replacement))
    (unmarked : source.head? ≠ some '\ufeff') :
    ∃ arguments, (Command.Arguments.start name).define body = .ok arguments ∧
      let directive := Directive.write body
      let inside := (Command.scannerOf [] (directive ++ source)).scanTokens
      let outside := (Command.scannerOf arguments.definitions source).scanTokens
      (∀ tokens, outside.1 = .ok tokens → inside.1 = .ok (tokens.map (·.behind directive))) ∧
        (∀ diagnostic, outside.1 = .error diagnostic →
          inside.1 = .error (diagnostic.behind directive) ∧
            (diagnostic.behind directive).kind = diagnostic.kind ∧
            (diagnostic.behind directive).message = diagnostic.message) ∧
        inside.2.macros = outside.2.macros := by
  refine ⟨{ Command.Arguments.start name with definitions := [(key, replacement)] }, ?_, ?_⟩
  · rw [Command.Arguments.define, parts]
    rfl
  · intro directive inside outside
    have inside_eq : inside =
        ((outside.1.map (·.map (·.behind directive))).mapError (·.behind directive),
          outside.2.behind directive) :=
      (scanTokens_directive parts unmarked).trans (scanFrom_behind directive _ [])
    rw [inside_eq]
    refine ⟨fun tokens success => ?_, fun diagnostic failure => ?_, rfl⟩
    · rw [success]
      rfl
    · rw [failure]
      exact ⟨rfl, diagnostic.kind_behind directive, diagnostic.message_behind directive⟩

/-- A definition whose replacement begins with another line, and holds a directive itself. -/
def definingBody : Text :=
  ['A', '=', '\n', '"', 'B', '=', 'z', '"', 'B']

theorem definition_is_leading_directive_definingBody :
    ∃ arguments, (Command.Arguments.start (some .tokens)).define definingBody = .ok arguments ∧
      (Command.scannerOf arguments.definitions ['A', '\n', ';']).scanTokens.1 =
        .ok [⟨['z'], 1, 0, 2⟩, ⟨[';'], 2, 2, 0⟩] ∧
      (Command.scannerOf [] (Directive.write definingBody ++ ['A', '\n', ';'])).scanTokens.1 =
        .ok [⟨['z'], 1, 0, 2⟩, ⟨[';'], 3, 15, 0⟩] := by
  have scanned : (scanWithin 10 [] (Command.scannerOf
      [(['A'], ['\n', '"', 'B', '=', 'z', '"', 'B'])] ['A', '\n', ';'])).map
        (fun answer => (answer.1.toOption, answer.2.macros)) =
          some (some [⟨['z'], 1, 0, 2⟩, ⟨[';'], 2, 2, 0⟩],
            (MacroTable.empty.define ['A'] ['\n', '"', 'B', '=', 'z', '"', 'B']).define
              ['B'] ['z']) := by
    decide +kernel
  obtain ⟨after, success, _⟩ := scanTokens_of_scanWithin scanned
  have unmarked : ['A', '\n', ';'].head? ≠ some '\ufeff' := by decide
  have parts : Directive.split definingBody =
      .ok (['A'], ['\n', '"', 'B', '=', 'z', '"', 'B']) := rfl
  obtain ⟨arguments, read, same, _⟩ :=
    definition_is_leading_directive (some .tokens) parts unmarked
  obtain rfl := Except.ok.inj read
  have outside := congrArg Prod.fst success
  exact ⟨_, read, outside, same _ outside⟩

end Scanner
end MmlScan
