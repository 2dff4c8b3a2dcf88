import MmlScan.Proofs.History
import MmlScan.Proofs.Termination

/-!
# Accounting for the source

The macros that have been entered and not left are found in the history of a scan, and the texts
that the scanner holds are their replacements, above the source.  The events outside of them take up
the source piece by piece, so what they take lies in front of the place where reading goes on in the
source, whatever happens inside of macros.  When a scan comes to its end, nothing lies behind it.
-/

namespace MmlScan

/-- The whole text around a position. -/
def Site.text (site : Site) : Text :=
  site.front ++ site.rest

@[simp]
theorem Site.text_advance (site : Site) (count : Nat) : (site.advance count).text = site.text := by
  simp [text, advance]

theorem View.text_site (view : View) : view.site.text = view.buffer := rfl

namespace Scanner

/-! ## What a history says -/

namespace Event

/-- The macros that have been entered and not left, the innermost first. -/
def active : List Event → List MacroDefinition
  | [] => []
  | .enter definition :: earlier => definition :: active earlier
  | .leave :: earlier => (active earlier).tail
  | .blanks _ :: earlier | .directive _ :: earlier | .token _ :: earlier => active earlier

/-- The text that is being read. -/
def reading (source : Text) (events : List Event) : Text :=
  match active events with
  | [] => source
  | definition :: _ => definition.replacement

/-- The events outside of all macros, the earliest first. -/
def surface : List Event → List Event
  | [] => []
  | event :: earlier =>
      if (active earlier).isEmpty then surface earlier ++ [event] else surface earlier

/-- The text that is taken up by events, one after the other. -/
def covered (events : List Event) : Text :=
  events.flatMap piece

theorem surface_split {events before behind : List Event} {event : Event}
    (split : surface events = before ++ event :: behind) :
    ∃ later earlier, events = later ++ event :: earlier ∧ active earlier = [] ∧
      surface earlier = before := by
  induction events generalizing behind with
  | nil => exact absurd split.symm (List.append_ne_nil_of_right_ne_nil _ (List.cons_ne_nil _ _))
  | cons last events ih =>
      rw [surface] at split
      split at split
      · next outside =>
          -- the piece was taken last, or it lies among those taken before
          rcases List.eq_nil_or_concat' behind with rfl | ⟨behind, final, rfl⟩
          · obtain ⟨before_eq, last_eq⟩ := List.append_inj' split rfl
            cases last_eq
            exact ⟨[], events, rfl, List.isEmpty_iff.mp outside, before_eq⟩
          · rw [← List.cons_append, ← List.append_assoc] at split
            obtain ⟨later, earlier, rfl, found⟩ := ih (List.append_inj' split rfl).1
            exact ⟨last :: later, earlier, rfl, found⟩
      · obtain ⟨later, earlier, rfl, found⟩ := ih split
        exact ⟨last :: later, earlier, rfl, found⟩

end Event

/-! ## The place in the source -/

/-- The last of some sites. -/
def outermost : Site → List Site → Site
  | site, [] => site
  | _, next :: sites => outermost next sites

/-- Where reading goes on in the source. -/
def sourceSite (scanner : Scanner) : Site :=
  outermost scanner.view.site (scanner.expansions.frames.map (·.site))

theorem getLast_outermost (site : Site) (sites : List Site) :
    (site :: sites).getLast? = some (outermost site sites) := by
  induction sites generalizing site with
  | nil => rfl
  | cons next sites ih => exact List.getLast?_cons_cons.trans (ih next)

theorem getLast_sites (scanner : Scanner) :
    scanner.sites.getLast? = some scanner.sourceSite :=
  getLast_outermost _ _

/-- Only outside of all expansions the place in the source moves with the cursor. -/
theorem front_outermost_advance (site : Site) (sites : List Site) (count : Nat) :
    (outermost (site.advance count) sites).front =
      (outermost site sites).front ++ if sites.isEmpty then site.rest.take count else [] := by
  cases sites with
  | nil => rfl
  | cons next sites => exact (List.append_nil _).symm

theorem Takes.site_eq {taken : Text} {scanner after : Scanner} (takes : Takes taken scanner after) :
    after.view.site = scanner.view.site.advance taken.length := by
  have rest_eq : scanner.view.rest = taken ++ after.view.rest := takes.rest_eq
  have front_eq : after.view.past.reverse = scanner.view.past.reverse ++ taken := by
    have buffer_eq : after.view.past.reverse ++ after.view.rest =
        scanner.view.past.reverse ++ scanner.view.rest := takes.buffer_eq
    rw [rest_eq, ← List.append_assoc] at buffer_eq
    exact List.append_cancel_right buffer_eq
  rw [View.site, View.site, Site.advance, rest_eq, List.take_left, List.drop_left, front_eq]

theorem takes_takeToken {scanner after : Scanner} {token : Token}
    (taken : scanner.takeToken = .advanced (some token) after) :
    Takes token.text scanner after := by
  obtain ⟨text, trimmed, same⟩ := takeToken_eq_advanced taken
  cases same
  exact takes_trim trimmed

theorem takes_skipBlanks (scanner : Scanner) :
    Takes (scanner.rest.takeWhile Text.isBlank) scanner scanner.skipBlanks.2 := by
  have takes := takes_consume (scanner.rest.takeWhile Text.isBlank).length
    (rfl : scanner.skipBlanks.2.view = _) rfl
  rwa [Text.take_length_takeWhile] at takes

/-- The texts that a scanner holds and the place in its source are those that its history says. -/
structure Accounted (source : Text) (events : List Event) (scanner : Scanner) : Prop where
  texts_eq : scanner.sites.map (·.text) =
    (Event.active events).map (·.replacement) ++ [source]
  covered_eq : scanner.sourceSite.front = Event.covered (Event.surface events)

namespace Accounted

variable {source : Text} {events : List Event} {scanner after : Scanner} {event : Event}

theorem depth_eq (accounted : Accounted source events scanner) :
    scanner.depth = (Event.active events).length := by
  have lengths := congrArg List.length accounted.texts_eq
  simpa [sites, depth, Expansions.depth] using lengths

theorem outside_iff (accounted : Accounted source events scanner) :
    Event.active events = [] ↔ scanner.depth = 0 := by
  rw [accounted.depth_eq, List.length_eq_zero_iff]

theorem text_sourceSite (accounted : Accounted source events scanner) :
    scanner.sourceSite.text = source := by
  have last_eq := congrArg List.getLast? accounted.texts_eq
  rw [List.getLast?_map, getLast_sites, List.getLast?_concat] at last_eq
  exact Option.some.inj last_eq

theorem buffer_eq (accounted : Accounted source events scanner) :
    scanner.buffer = Event.reading source events := by
  have texts_eq := accounted.texts_eq
  rw [sites, List.map_cons, View.text_site] at texts_eq
  rw [buffer, Event.reading]
  cases shape : Event.active events with
  | nil =>
      rw [shape] at texts_eq
      exact (List.cons.inj texts_eq).1
  | cons definition definitions =>
      rw [shape] at texts_eq
      exact (List.cons.inj texts_eq).1

/-- An event moves the place in the source by its piece if it happens there. -/
theorem covered_advance (accounted : Accounted source events scanner)
    (begins : event.piece <+: scanner.rest) :
    (outermost (scanner.view.site.advance event.piece.length)
      (scanner.expansions.frames.map (·.site))).front =
        Event.covered (Event.surface (event :: events)) := by
  have taken_eq : scanner.view.site.rest.take event.piece.length = event.piece :=
    (List.prefix_iff_eq_take.mp begins).symm
  have empty_iff : (scanner.expansions.frames.map (·.site)).isEmpty =
      (Event.active events).isEmpty := by
    rw [Bool.eq_iff_iff, List.isEmpty_iff, List.isEmpty_iff, accounted.outside_iff,
      List.map_eq_nil_iff, depth, Expansions.depth, List.length_eq_zero_iff]
  have covered_eq := accounted.covered_eq
  rw [sourceSite] at covered_eq
  rw [front_outermost_advance, taken_eq, empty_iff, covered_eq, Event.surface]
  split
  · simp [Event.covered]
  · exact List.append_nil _

/-- Text is taken in front of the cursor. -/
theorem take (accounted : Accounted source events scanner)
    (takes : Takes event.piece scanner after)
    (active_eq : Event.active (event :: events) = Event.active events) :
    Accounted source (event :: events) after := by
  have site_eq := takes.site_eq
  constructor
  · rw [active_eq, ← accounted.texts_eq, sites, sites, site_eq, takes.expansions_eq, List.map_cons,
      List.map_cons, Site.text_advance]
  · rw [sourceSite, site_eq, takes.expansions_eq]
    exact accounted.covered_advance ⟨_, takes.rest_eq.symm⟩

theorem enter {definition : MacroDefinition} (accounted : Accounted source events scanner)
    (found : scanner.macros.longestMatch? scanner.rest = some definition)
    (begun : scanner.enter? definition.key definition.replacement = some after) :
    Accounted source (.enter definition :: events) after := by
  obtain ⟨behind, rest_eq⟩ := MacroTable.append_of_longestMatch found
  obtain ⟨_, _, _, _, view_eq, frames_eq⟩ := enter_eq_some begun
  have behind_eq := site_of_rest rest_eq.symm
  have start_eq : after.view.site = .start definition.replacement := by
    rw [view_eq]
    rfl
  constructor
  · have texts_eq := accounted.texts_eq
    rw [sites, List.map_cons] at texts_eq
    rw [sites, start_eq, frames_eq, List.map_cons, List.map_cons, List.map_cons, behind_eq,
      Site.text_advance, texts_eq]
    rfl
  · rw [sourceSite, frames_eq, List.map_cons, behind_eq]
    have begins : (Event.enter definition).piece <+: scanner.rest := ⟨behind, rest_eq⟩
    exact accounted.covered_advance begins

theorem leave (accounted : Accounted source events scanner)
    (left : scanner.exit? = some after) : Accounted source (.leave :: events) after := by
  have inside : Event.active events ≠ [] := by
    intro outside
    have stays := exit_eq_none_iff.mpr (accounted.outside_iff.mp outside)
    rw [left] at stays
    cases stays
  obtain ⟨definition, definitions, shape⟩ := List.exists_cons_of_ne_nil inside
  have sites_eq := sites_exit left
  constructor
  · have texts_eq := accounted.texts_eq
    rw [sites_eq, shape, List.map_cons, List.map_cons, List.cons_append] at texts_eq
    rw [Event.active, shape]
    exact (List.cons.inj texts_eq).2
  · obtain ⟨frame, frames, frames_shape, frames_eq, view_eq, _⟩ := exit_eq_some left
    have source_eq : after.sourceSite = scanner.sourceSite := by
      rw [sourceSite, sourceSite, frames_shape, frames_eq, view_eq]
      rfl
    rw [source_eq, accounted.covered_eq, Event.surface, shape]
    rfl

/-- Every event keeps the account. -/
theorem step (accounted : Accounted source events scanner) (step : Step event scanner after) :
    Accounted source (event :: events) after := by
  cases step with
  | blanks passed => exact accounted.take (takes_skipBlanks scanner) rfl
  | directive read taken =>
      obtain ⟨string, _, _, _, _, _, takes, _⟩ := takes_readDirective read
      rw [List.append_cancel_right (taken.symm.trans takes.rest_eq)]
      exact accounted.take takes rfl
  | enter found begun => exact accounted.enter found begun
  | leave _ left => exact accounted.leave left
  | token _ taken => exact accounted.take (takes_takeToken taken) rfl

end Accounted

theorem accounted_fresh {start : Scanner} (fresh : start.view = .ofText start.source)
    (outside : start.expansions.frames = []) : Accounted start.source [] start where
  texts_eq := by
    rw [sites, outside, List.map_nil, List.map_singleton, View.text_site, fresh]
    rfl
  covered_eq := by
    rw [sourceSite, outside, fresh]
    rfl

theorem History.accounted {start scanner : Scanner} {events : List Event}
    (history : History start events scanner) (initially : Accounted start.source [] start) :
    Accounted start.source events scanner := by
  induction history with
  | start => exact initially
  | mark _ ih => exact ⟨ih.texts_eq, ih.covered_eq⟩
  | event _ step ih => exact ih.step step

/-! ## Tokens and pieces -/

section Tokens

variable {source : Text} {events : List Event} {scanner after : Scanner} {token : Token}

theorem unquoted_of_readDirective (nothing : scanner.readDirective = (.ok false, after)) :
    scanner.rest.head? ≠ some '"' := by
  intro quoted
  obtain ⟨text, opened⟩ := List.head?_eq_some_iff.mp quoted
  rw [readDirective, readString, opened] at nothing
  cases closed : unquote? text with
  | none =>
      simp only [closed] at nothing
      cases nothing
  | some answer =>
      simp only [closed] at nothing
      split at nothing <;> cases nothing

theorem content_of_tokenLength {text : Text} {length : Nat}
    (found : Pattern.tokenLength? text = some length) : ¬ text.BlankLed := by
  intro blank
  cases text with
  | nil => cases found
  | cons c rest =>
      rw [Text.blankLed_cons] at blank
      have no_digit : ¬ c.isDigit = true := by
        intro digit
        rw [Pattern.isBlank_of_isDigit digit] at blank
        cases blank
      rw [Pattern.tokenLength?, if_neg no_digit, if_pos blank] at found
      cases found

theorem content_of_takeToken {taken : Option Token}
    (success : scanner.takeToken = .advanced taken after) : ¬ scanner.rest.BlankLed := by
  obtain ⟨text, trimmed, _⟩ := takeToken_eq_advanced success
  obtain ⟨compiled, patterns, compilation, view_eq, _⟩ := trim_eq_ok trimmed
  obtain ⟨length, found, _⟩ := View.trim_eq_some view_eq
  have parsed := PatternCache.parse?_of_compile compilation
  rw [Pattern.parse_token] at parsed
  rw [← Option.some.inj parsed, Pattern.matchFront_token] at found
  exact content_of_tokenLength found

/-- A token is the lexeme at the cursor, which is content and no quote. -/
theorem Step.token_eq (step : Step (.token token) scanner after) :
    token = scanner.view.site.token scanner.depth ∧ ¬ scanner.rest.BlankLed ∧
      scanner.rest.head? ≠ some '"' := by
  cases step with
  | token plain taken =>
      have content := content_of_takeToken taken
      obtain ⟨_, same, _⟩ := takeToken_of_content content
      cases taken.symm.trans same
      exact ⟨rfl, content, unquoted_of_readDirective plain⟩

/-- A token stands in the text that is being read. -/
theorem Accounted.stands (accounted : Accounted source events scanner)
    (step : Step (.token token) scanner after) :
    ∃ behind, Event.reading source events = scanner.view.site.front ++ (token.text ++ behind) ∧
      token.Stands scanner.view.site.front behind := by
  obtain ⟨rfl, content, unquoted⟩ := step.token_eq
  refine ⟨scanner.rest.drop scanner.rest.lexeme.length, ?_, rfl, rfl, ?_⟩
  · have parts : scanner.rest.lexeme ++ scanner.rest.drop scanner.rest.lexeme.length =
        scanner.rest := Text.lexeme_append_drop scanner.rest
    rw [← accounted.buffer_eq]
    exact congrArg (scanner.view.past.reverse ++ ·) parts.symm
  · exact Text.isLexeme_lexeme content unquoted

theorem Step.takesPiece {event : Event} (step : Step event scanner after)
    (outside : scanner.depth = 0) : event.TakesPiece := by
  cases step with
  | blanks passed =>
      refine ⟨fun run_nil => ?_, fun c member => List.mem_takeWhile_imp member⟩
      rw [skipBlanks, View.trimWhile] at passed
      rw [rest] at run_nil
      simp [run_nil] at passed
  | directive read taken =>
      obtain ⟨quoted, body, key, replacement, closed, parts, takes, _⟩ := takes_readDirective read
      exact ⟨quoted, body, key, replacement,
        List.append_cancel_right (taken.symm.trans takes.rest_eq), closed, parts⟩
  | enter => exact trivial
  | token => exact trivial
  | leave _ left =>
      rw [exit_eq_none_iff.mpr outside] at left
      cases left

/-- The tokens outside of all macros are those of depth zero. -/
theorem History.outside_eq {start : Scanner} (history : History start events scanner)
    (initially : Accounted start.source [] start) :
    (Event.surface events).filterMap Event.token? =
      (Event.tokens events).filter (·.depth = 0) := by
  induction history with
  | start => rfl
  | mark _ ih => exact ih
  | @event event events before after earlier step ih =>
      have accounted := earlier.accounted initially
      have depth_eq : ∀ token ∈ event.token?, token.depth = (Event.active events).length := by
        intro token taken
        cases event <;> cases taken
        rw [step.token_eq.1]
        exact accounted.depth_eq
      rw [Event.tokens_cons, List.filter_append, ← ih, Event.surface]
      cases taken : event.token? with
      | none => split <;> simp [taken]
      | some token =>
          have depth_eq := depth_eq token taken
          split
          · next outside =>
              rw [List.isEmpty_iff.mp outside] at depth_eq
              simp [taken, depth_eq]
          · next inside =>
              rw [List.isEmpty_iff, ← List.length_eq_zero_iff, ← depth_eq] at inside
              simp [inside]

end Tokens

/-! ## The whole source -/

theorem ahead_eq_sites (scanner : Scanner) : scanner.ahead = scanner.sites.map (·.rest) := by
  rw [ahead, sites, List.map_cons, List.map_map]
  refine congrArg (scanner.rest :: ·) (List.map_congr_left fun frame _ => ?_)
  exact (View.rest_reposition frame.enclosing frame.resume).symm

theorem rest_sourceSite {scanner : Scanner} (nothing : scanner.pending = []) :
    scanner.sourceSite.rest = [] := by
  rw [pending, ahead_eq_sites, List.flatten_eq_nil_iff] at nothing
  exact nothing _ (List.mem_map_of_mem (List.mem_of_getLast? (getLast_sites scanner)))

/-- Every token of events stands behind a text and the pieces of the events before it. -/
def Placed (front : Text) (events : List Event) : Prop :=
  ∀ before token behind, events = before ++ .token token :: behind →
    token.offset = Text.size (front ++ Event.covered before) ∧
      token.line = Text.lineAfter (front ++ Event.covered before)

theorem Placed.tail {front : Text} {event : Event} {events : List Event}
    (placed : Placed front (event :: events)) : Placed (front ++ event.piece) events := by
  intro before token behind split
  have place := placed (event :: before) token behind (by rw [split, List.cons_append])
  rwa [Event.covered, List.flatMap_cons, ← List.append_assoc] at place

/-- Tokens that take up text stand one behind the other. -/
theorem Placed.ordered {front : Text} {events : List Event} (placed : Placed front events)
    (visible : ∀ token, Event.token token ∈ events → token.text ≠ []) :
    (events.filterMap Event.token?).Pairwise fun left right =>
      left.offset < right.offset ∧ left.line ≤ right.line := by
  induction events generalizing front with
  | nil => exact .nil
  | cons event events ih =>
      have later := ih placed.tail fun token member => visible token (List.mem_cons_of_mem _ member)
      cases event with
      | blanks | directive | enter | leave => exact later
      | token token =>
          refine List.pairwise_cons.mpr ⟨fun other member => ?_, later⟩
          obtain ⟨event, found, taken⟩ := List.mem_filterMap.mp member
          cases event <;> cases taken
          obtain ⟨before, behind, rfl⟩ := List.append_of_mem found
          obtain ⟨offset_eq, line_eq⟩ := placed [] token _ rfl
          obtain ⟨other_offset, other_line⟩ := placed (.token token :: before) other behind rfl
          have size_pos : Text.size token.text ≠ 0 := fun zero =>
            visible token List.mem_cons_self (Text.size_eq_zero_iff.mp zero)
          rw [offset_eq, line_eq, other_offset, other_line]
          simp only [Event.covered, List.flatMap_nil, List.append_nil, List.flatMap_cons,
            Event.piece, Text.size_append, Text.lineAfter_append]
          omega

/-- What a scan took from a source, and where its tokens stand. -/
structure Accounts (start : Scanner) (tokens : List Token) (events : List Event) : Prop where
  /-- The pieces taken outside of all macros make up the source. -/
  covers : Event.covered (Event.surface events) = start.source
  /-- Each of them is a run of blanks, a directive, a key or a token. -/
  pieces : ∀ event ∈ Event.surface events, event.TakesPiece
  /-- Each of them is taken in the source, behind the pieces before it. -/
  steps : ∀ before event behind, Event.surface events = before ++ event :: behind →
    ∃ scanner after, Step event scanner after ∧ scanner.depth = 0 ∧
      scanner.buffer = start.source ∧ scanner.offset = Text.size (Event.covered before)
  /-- The tokens among them are those of depth zero, in their order. -/
  outside : (Event.surface events).filterMap Event.token? = tokens.filter (·.depth = 0)
  /-- Each of these tokens knows where its piece begins in the source. -/
  placed : Placed [] (Event.surface events)
  /-- So they stand one behind the other. -/
  ordered : (tokens.filter (·.depth = 0)).Pairwise fun left right =>
    left.offset < right.offset ∧ left.line ≤ right.line
  /-- Every token, at any depth, stands as a lexeme in the text that was being read: the replacement
  of the macro entered last and not left, or the source. -/
  stands : ∀ later token earlier, events = later ++ .token token :: earlier →
    ∃ scanner front behind, History start earlier scanner ∧
      scanner.buffer = Event.reading start.source earlier ∧ scanner.depth = token.depth ∧
      token.depth = (Event.active earlier).length ∧
      scanner.buffer = front ++ (token.text ++ behind) ∧ token.Stands front behind

section Histories

variable {start scanner : Scanner} {events : List Event}

/-- The events outside of all macros are steps in the source, behind what has been covered. -/
theorem History.surface_step {before behind : List Event} {event : Event}
    (history : History start events scanner) (initially : Accounted start.source [] start)
    (split : Event.surface events = before ++ event :: behind) :
    ∃ earlier reader after, Accounted start.source earlier reader ∧ Step event reader after ∧
      Event.active earlier = [] ∧ reader.view.site.front = Event.covered before := by
  obtain ⟨later, earlier, rfl, outside, surface_eq⟩ := Event.surface_split split
  obtain ⟨reader, after, earlier_history, step⟩ := history.step_of_append
  have accounted := earlier_history.accounted initially
  have frames_nil := List.length_eq_zero_iff.mp (accounted.outside_iff.mp outside)
  refine ⟨earlier, reader, after, accounted, step, outside, ?_⟩
  rw [← surface_eq, ← accounted.covered_eq, sourceSite, frames_nil]
  rfl

theorem History.placed (history : History start events scanner)
    (initially : Accounted start.source [] start) : Placed [] (Event.surface events) := by
  intro before token behind split
  obtain ⟨_, reader, _, accounted, step, _, front_eq⟩ := history.surface_step initially split
  obtain ⟨_, _, stands⟩ := accounted.stands step
  rw [List.nil_append, ← front_eq]
  exact ⟨stands.offset_eq, stands.line_eq⟩

theorem History.ordered (history : History start events scanner)
    (initially : Accounted start.source [] start) :
    ((Event.tokens events).filter (·.depth = 0)).Pairwise fun left right =>
      left.offset < right.offset ∧ left.line ≤ right.line := by
  rw [← history.outside_eq initially]
  apply (history.placed initially).ordered
  intro token member
  obtain ⟨before, behind, split⟩ := List.append_of_mem member
  obtain ⟨_, _, _, accounted, step, _⟩ := history.surface_step initially split
  obtain ⟨_, _, stands⟩ := accounted.stands step
  exact stands.lexeme.ne_nil

theorem History.accounts (history : History start events scanner)
    (initially : Accounted start.source [] start) (nothing : scanner.pending = []) :
    Accounts start (Event.tokens events) events where
  covers := by
    have accounted := history.accounted initially
    have text_eq := accounted.text_sourceSite
    rwa [Site.text, rest_sourceSite nothing, List.append_nil, accounted.covered_eq] at text_eq
  pieces event member := by
    obtain ⟨before, behind, split⟩ := List.append_of_mem member
    obtain ⟨_, _, _, accounted, step, outside, _⟩ := history.surface_step initially split
    exact step.takesPiece (accounted.outside_iff.mp outside)
  steps before event behind split := by
    obtain ⟨earlier, reader, after, accounted, step, outside, front_eq⟩ :=
      history.surface_step initially split
    refine ⟨reader, after, step, accounted.outside_iff.mp outside, ?_, ?_⟩
    · rw [accounted.buffer_eq, Event.reading, outside]
    · rw [← front_eq, offset, reader.view.offset_eq, View.site, Text.size_reverse]
  outside := history.outside_eq initially
  placed := history.placed initially
  ordered := history.ordered initially
  stands later token earlier split := by
    subst split
    obtain ⟨reader, _, earlier_history, step⟩ := history.step_of_append
    have accounted := earlier_history.accounted initially
    obtain ⟨behind, text_eq, stands⟩ := accounted.stands step
    have depth_eq : reader.depth = token.depth := by
      rw [step.token_eq.1]
      rfl
    exact ⟨reader, _, behind, earlier_history, accounted.buffer_eq, depth_eq,
      depth_eq.symm.trans accounted.depth_eq, accounted.buffer_eq.trans text_eq, stands⟩

end Histories

/-- A scan that succeeds accounts for all of its source. -/
theorem scanTokens_accounts {text : Text} {patterns : PatternCache} {macros : MacroTable}
    {tokens : List Token} {after : Scanner}
    (success : scanTokens { withPatterns text patterns with macros := macros } =
      (.ok tokens, after)) :
    ∃ events, History { withPatterns text patterns with macros := macros } events after ∧
      tokens = Event.tokens events ∧
      Accounts { withPatterns text patterns with macros := macros } tokens events := by
  obtain ⟨events, history, rfl⟩ := history_of_scanFrom success
  exact ⟨events, history, rfl,
    history.accounts (accounted_fresh rfl rfl) (pending_scanFrom success)⟩

/-- A directive, a macro, tokens of one and of two characters, and the macro of the directive. -/
def mixedText : Text :=
  "\"B=b1\"A c 12B".toList

/-- A macro of one character. -/
def singleMacro : MacroTable :=
  MacroTable.empty.define ['A'] ['x']

theorem scanTokens_accounts_mixedText :
    ∃ after events,
      scanTokens { withPatterns mixedText .empty with macros := singleMacro } =
        (.ok (Event.tokens events), after) ∧
      Event.tokens events = [⟨['x'], 1, 0, 1⟩, ⟨['c'], 1, 8, 0⟩, ⟨['1', '2'], 1, 10, 0⟩,
        ⟨['b'], 1, 0, 1⟩, ⟨['1'], 1, 1, 1⟩] ∧
      Accounts { withPatterns mixedText .empty with macros := singleMacro } (Event.tokens events)
        events := by
  have scanned : (scanWithin 10 [] { withPatterns mixedText .empty with macros := singleMacro }).map
      (fun answer => (answer.1.toOption, answer.2.macros)) =
        some (some [⟨['x'], 1, 0, 1⟩, ⟨['c'], 1, 8, 0⟩, ⟨['1', '2'], 1, 10, 0⟩, ⟨['b'], 1, 0, 1⟩,
          ⟨['1'], 1, 1, 1⟩], singleMacro.define ['B'] ['b', '1']) := by decide +kernel
  obtain ⟨after, success, _⟩ := scanTokens_of_scanWithin scanned
  obtain ⟨events, _, tokens_eq, accounts⟩ := scanTokens_accounts success
  rw [tokens_eq] at success accounts
  exact ⟨after, events, success, tokens_eq.symm, accounts⟩

end Scanner
end MmlScan
