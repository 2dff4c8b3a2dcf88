import MmlScan.Proofs.Pending
import MmlScan.Proofs.Unfolding

/-!
# Scanning is unfolding

Each expansion in progress has a site at which reading goes on after it.  What a scanner has still
to take is what these sites unfold to, the innermost first, and every round takes the front of it.

A key that is refused is being expanded, so the site at the cursor needs the replacement of the key,
and the replacement needs that site: there is no unfolding then.
-/

namespace MmlScan

/-! ## The sites of a scanner -/

/-- The site of the cursor. -/
def View.site (view : View) : Site :=
  ⟨view.past.reverse, view.rest⟩

/-- Where reading goes on after an expansion. -/
def Expansion.site (frame : Expansion) : Site :=
  (frame.enclosing.reposition frame.resume).site

theorem View.site_consume (view : View) (count : Nat) :
    (view.consume count).site = view.site.advance count := by
  simp [site, consume, archive, forward, Site.advance]

theorem View.site_trimWhile (view : View) :
    (view.trimWhile Text.isBlank).2.site = view.site.skip :=
  view.site_consume _

namespace Scanner

/-- The site of the cursor and those behind the expansions in progress, innermost first. -/
def sites (scanner : Scanner) : List Site :=
  scanner.view.site :: scanner.expansions.frames.map (·.site)

/-- Behind a key at the cursor reading goes on from the end of the key. -/
theorem site_of_rest {scanner : Scanner} {key behind : Text}
    (rest_eq : scanner.rest = key ++ behind) :
    Expansion.site ⟨key, scanner.view, scanner.offset + Text.size key⟩ =
      scanner.view.site.advance key.length := by
  have site_rest : scanner.view.site.rest = key ++ behind := rest_eq
  rw [Expansion.site, View.reposition, View.moveTo_eq, splitAt_of_rest rest_eq, Site.advance,
    site_rest, List.take_left, List.drop_left]
  simp [View.site, View.archive, View.between]

theorem sites_exit {scanner outer : Scanner} (left : scanner.exit? = some outer) :
    scanner.sites = scanner.view.site :: outer.sites := by
  obtain ⟨frame, frames, shape, frames_eq, view_eq, _⟩ := exit_eq_some left
  rw [sites, sites, shape, frames_eq, view_eq]
  rfl

end Scanner

/-- The tokens that sites unfold to one after the other; the last site is in the source. -/
def Yields (macros : MacroTable) : List Site → List Token → Prop
  | [], tokens => tokens = []
  | site :: sites, tokens =>
      ∃ inner outer, Unfolds macros sites.length site inner ∧ Yields macros sites outer ∧
        tokens = inner ++ outer

namespace Yields

variable {macros : MacroTable} {site : Site} {sites : List Site} {tokens : List Token}

theorem skip_iff :
    Yields macros (site.skip :: sites) tokens ↔ Yields macros (site :: sites) tokens := by
  simp only [Yields, Unfolds.skip_iff]

theorem finished_iff (nothing : site.skip.rest = []) :
    Yields macros (site :: sites) tokens ↔ Yields macros sites tokens := by
  simp [Yields, Unfolds.finished_iff nothing]

theorem single_iff : Yields macros [site] tokens ↔ Unfolds macros 0 site tokens := by
  simp [Yields]

theorem key_iff {definition : MacroDefinition} (remains : site.skip.rest ≠ [])
    (longest : macros.Longest site.skip.rest definition) :
    Yields macros (site :: sites) tokens ↔
      Yields macros
        (.start definition.replacement :: site.skip.advance definition.key.length :: sites)
        tokens := by
  simp only [Yields, Unfolds.key_iff remains longest, List.length_cons]
  constructor
  · rintro ⟨_, outer, ⟨inside, behind, inside_unfolds, behind_unfolds, rfl⟩, outer_yields, rfl⟩
    exact ⟨inside, _, inside_unfolds, ⟨behind, outer, behind_unfolds, outer_yields, rfl⟩,
      List.append_assoc ..⟩
  · rintro ⟨inside, _, inside_unfolds, ⟨behind, outer, behind_unfolds, outer_yields, rfl⟩, rfl⟩
    exact ⟨_, outer, ⟨inside, behind, inside_unfolds, behind_unfolds, rfl⟩, outer_yields,
      (List.append_assoc ..).symm⟩

theorem token_iff (remains : site.skip.rest ≠ [])
    (plain : ∀ key ∈ macros.keys, ¬ key <+: site.skip.rest) :
    Yields macros (site :: sites) tokens ↔
      ∃ later, Yields macros (site.skip.advance site.skip.rest.lexeme.length :: sites) later ∧
        tokens = site.skip.token sites.length :: later := by
  simp only [Yields, Unfolds.token_iff remains plain]
  constructor
  · rintro ⟨_, outer, ⟨behind, behind_unfolds, rfl⟩, outer_yields, rfl⟩
    exact ⟨_, ⟨behind, outer, behind_unfolds, outer_yields, rfl⟩, rfl⟩
  · rintro ⟨_, ⟨behind, outer, behind_unfolds, outer_yields, rfl⟩, rfl⟩
    exact ⟨_, outer, ⟨behind, behind_unfolds, rfl⟩, outer_yields, rfl⟩

end Yields

/-! ## What the keys being expanded need -/

/-- The replacement of every key being expanded needs whatever is needed where it is being read. -/
def Traced (macros : MacroTable) : Site → List Expansion → Prop
  | _, [] => True
  | site, frame :: frames =>
      (∀ active ∈ frame :: frames, ∀ definition ∈ macros.entries, definition.key = active.key →
        ∀ part, Relation.TransGen (Needs macros) part site →
          Relation.TransGen (Needs macros) part (.start definition.replacement)) ∧
      Traced macros frame.site frames

namespace Traced

variable {macros : MacroTable} {site other : Site} {frames : List Expansion}

theorem transGen {active : Expansion} {definition : MacroDefinition} {part : Site}
    (traced : Traced macros site frames) (member : active ∈ frames)
    (defined : definition ∈ macros.entries) (same : definition.key = active.key)
    (needed : Relation.TransGen (Needs macros) part site) :
    Relation.TransGen (Needs macros) part (.start definition.replacement) := by
  cases frames with
  | nil => cases member
  | cons frame frames => exact traced.1 active member definition defined same part needed

/-- A site that needs less is traced as well. -/
theorem mono (traced : Traced macros site frames)
    (fewer : ∀ part, Relation.TransGen (Needs macros) part other →
      Relation.TransGen (Needs macros) part site) : Traced macros other frames := by
  cases frames with
  | nil => exact trivial
  | cons frame frames =>
      refine ⟨fun active member definition defined same part needed => ?_, traced.2⟩
      exact traced.1 active member definition defined same part (fewer part needed)

theorem skip (traced : Traced macros site frames) : Traced macros site.skip frames := by
  apply traced.mono
  intro part needed
  obtain ⟨last, path, needed⟩ := Relation.TransGen.tail'_iff.mp needed
  exact Relation.TransGen.tail' path (Needs.skip_iff.mp needed)

/-- What a site needs is traced like the site. -/
theorem step (traced : Traced macros site frames) (needed : Needs macros other site) :
    Traced macros other frames :=
  traced.mono fun _ path => path.tail needed

theorem enter {frame : Expansion} {definition : MacroDefinition}
    (traced : Traced macros site frames) (remains : site.skip.rest ≠ [])
    (longest : macros.Longest site.skip.rest definition) (key_eq : frame.key = definition.key)
    (site_eq : frame.site = site.skip.advance definition.key.length) :
    Traced macros (.start definition.replacement) (frame :: frames) := by
  constructor
  · intro active member other defined same part needed
    rcases List.mem_cons.mp member with rfl | member
    · cases MacroTable.eq_of_key_eq defined longest.defined (same.trans key_eq)
      exact needed
    · exact traced.transGen member defined same (needed.tail (.inside remains longest))
  · rw [site_eq]
    exact traced.step (.behind remains longest)

end Traced

/-! ## The gate -/

/-- Every key has a character, and every replacement has content in front and no quote. -/
structure MacroTable.Solid (table : MacroTable) : Prop where
  key_nonempty : ∀ definition ∈ table.entries, definition.key ≠ []
  content : ∀ definition ∈ table.entries, ¬ definition.replacement.BlankLed
  unquoted : ∀ definition ∈ table.entries, '"' ∉ definition.replacement

theorem Edits.not_mem {c : Char} {edits : List Edit} {text final : Text}
    (changed : Edits edits text final) (absent : c ∉ text)
    (inserted : ∀ edit ∈ edits, c ∉ edit.inserted) : c ∉ final := by
  induction changed with
  | nil => exact absent
  | cons later ih =>
      rw [List.mem_append, not_or] at absent
      apply ih
      · rw [List.mem_append, not_or]
        exact ⟨inserted _ List.mem_cons_self, absent.2⟩
      · exact fun edit member => inserted edit (List.mem_cons_of_mem _ member)

namespace Scanner

/-- The scanner reads with a table what its sites unfold to, and meets no directive. -/
structure Follows (macros : MacroTable) (scanner : Scanner) : Prop where
  macros_eq : scanner.macros = macros
  unquoted : '"' ∉ scanner.pending
  traced : Traced macros scanner.view.site scanner.expansions.frames

/-- There are no blanks at the cursor. -/
abbrev Settled (scanner : Scanner) : Prop :=
  scanner.view.site.skip = scanner.view.site

theorem site_skipBlanks (scanner : Scanner) :
    scanner.skipBlanks.2.view.site = scanner.view.site.skip :=
  scanner.view.site_trimWhile

theorem yields_skipFrom {macros : MacroTable} (skipped : Bool) (scanner : Scanner)
    (tokens : List Token) :
    Yields macros (skipFrom skipped scanner).2.sites tokens ↔
      Yields macros scanner.sites tokens := by
  have blanks_iff (scanner : Scanner) :
      Yields macros scanner.skipBlanks.2.sites tokens ↔ Yields macros scanner.sites tokens := by
    rw [sites, site_skipBlanks]
    exact Yields.skip_iff
  fun_induction skipFrom skipped scanner with
  | case1 skipped scanner run consumed after exhausted outer left ih =>
      have nothing : scanner.view.site.skip.rest = [] := by
        rw [← site_skipBlanks]
        exact List.isEmpty_iff.mp exhausted
      have sites_eq : scanner.sites = scanner.view.site :: outer.sites := by
        have after_eq : after.sites = after.view.site :: outer.sites := sites_exit left
        rw [sites, (List.cons.inj after_eq).2.symm]
        rfl
      refine ih.trans ?_
      rw [sites_eq]
      exact (Yields.finished_iff nothing).symm
  | case2 skipped scanner => exact blanks_iff scanner
  | case3 skipped scanner => exact blanks_iff scanner

theorem traced_skipFrom {macros : MacroTable} (skipped : Bool) {scanner : Scanner}
    (traced : Traced macros scanner.view.site scanner.expansions.frames) :
    Traced macros (skipFrom skipped scanner).2.view.site
      (skipFrom skipped scanner).2.expansions.frames := by
  fun_induction skipFrom skipped scanner with
  | case1 skipped scanner run consumed after exhausted outer left ih =>
      obtain ⟨frame, frames, shape, frames_eq, view_eq, _⟩ := exit_eq_some left
      have shape : scanner.expansions.frames = frame :: frames := shape
      rw [shape] at traced
      apply ih
      rw [frames_eq, view_eq]
      exact traced.2
  | case2 skipped scanner =>
      rw [site_skipBlanks]
      exact traced.skip
  | case3 skipped scanner =>
      rw [site_skipBlanks]
      exact traced.skip

theorem Follows.skip {macros : MacroTable} {scanner : Scanner} (follows : scanner.Follows macros) :
    scanner.skip.2.Follows macros where
  macros_eq := (macros_skipFrom false scanner).trans follows.macros_eq
  unquoted := by
    rw [pending_skip]
    exact fun member => follows.unquoted ((List.dropWhile_subset _) member)
  traced := traced_skipFrom false follows.traced

theorem settled_skip (scanner : Scanner) : scanner.skip.2.Settled := by
  apply Site.skip_of_content
  rcases ahead_skip_shape scanner with content | ⟨exhausted, _⟩
  · exact .inr content
  · exact .inl exhausted

variable {macros : MacroTable} {definition : MacroDefinition} {scanner inner : Scanner}

theorem longest_of_match (solid : macros.Solid) (follows : scanner.Follows macros)
    (settled : scanner.Settled)
    (found : scanner.macros.longestMatch? scanner.rest = some definition) :
    scanner.view.site.skip.rest ≠ [] ∧ macros.Longest scanner.view.site.skip.rest definition := by
  have longest := MacroTable.longestMatch_eq_some_iff.mp found
  rw [follows.macros_eq] at longest
  rw [settled]
  refine ⟨fun nothing => ?_, longest⟩
  have begins : definition.key <+: [] := nothing ▸ longest.begins
  exact solid.key_nonempty definition longest.defined (List.prefix_nil.mp begins)

/-- Entering a macro unfolds its key. -/
theorem Follows.enter (solid : macros.Solid) (follows : scanner.Follows macros)
    (settled : scanner.Settled)
    (found : scanner.macros.longestMatch? scanner.rest = some definition)
    (begun : scanner.enter? definition.key definition.replacement = some inner) :
    inner.Follows macros ∧ inner.Settled ∧
      ∀ tokens, Yields macros inner.sites tokens ↔ Yields macros scanner.sites tokens := by
  obtain ⟨remains, longest⟩ := longest_of_match solid follows settled found
  obtain ⟨behind, rest_eq⟩ := MacroTable.append_of_longestMatch found
  obtain ⟨_, _, macros_eq, _, view_eq, frames_eq⟩ := enter_eq_some begun
  have behind_eq : Expansion.site ⟨definition.key, scanner.view,
      scanner.offset + Text.size definition.key⟩ =
        scanner.view.site.skip.advance definition.key.length := by
    rw [settled]
    exact site_of_rest rest_eq.symm
  have start_eq : inner.view.site = .start definition.replacement := by
    rw [view_eq]
    rfl
  refine ⟨⟨macros_eq.trans follows.macros_eq, ?_, ?_⟩, ?_, fun tokens => ?_⟩
  · apply (edits_enter found begun).not_mem follows.unquoted
    intro edit member
    rw [List.mem_singleton.mp member]
    exact solid.unquoted definition longest.defined
  · rw [frames_eq, start_eq]
    exact follows.traced.enter remains longest rfl behind_eq
  · rw [Settled, start_eq]
    exact Site.skip_of_content (.inr (solid.content definition longest.defined))
  · rw [sites, frames_eq, start_eq, List.map_cons, behind_eq]
    exact (Yields.key_iff remains longest).symm

theorem Enters.follows {definitions : List MacroDefinition} {after : Scanner}
    (solid : macros.Solid) (enters : Enters definitions scanner after)
    (follows : scanner.Follows macros) (settled : scanner.Settled) :
    after.Follows macros ∧ after.Settled ∧
      ∀ tokens, Yields macros after.sites tokens ↔ Yields macros scanner.sites tokens := by
  induction enters with
  | nil => exact ⟨follows, settled, fun _ => Iff.rfl⟩
  | cons found begun _ ih =>
      obtain ⟨inner_follows, inner_settled, inner_iff⟩ := follows.enter solid settled found begun
      obtain ⟨after_follows, after_settled, after_iff⟩ := ih inner_follows inner_settled
      exact ⟨after_follows, after_settled, fun tokens =>
        (after_iff tokens).trans (inner_iff tokens)⟩

/-- In front of a key that is refused there is nothing finite to unfold. -/
theorem Follows.not_yields_of_refused (solid : macros.Solid) (follows : scanner.Follows macros)
    (settled : scanner.Settled)
    (found : scanner.macros.longestMatch? scanner.rest = some definition)
    (refused : scanner.enter? definition.key definition.replacement = none) (tokens : List Token) :
    ¬ Yields macros scanner.sites tokens := by
  rintro ⟨inner, outer, unfolds, _⟩
  obtain ⟨remains, longest⟩ := longest_of_match solid follows settled found
  obtain ⟨inside, _, inside_unfolds, _⟩ := (Unfolds.key_iff remains longest).mp unfolds
  have key_active := List.mem_reverse.mp (mem_keys_of_refused refused)
  obtain ⟨active, member, same⟩ := List.mem_map.mp key_active
  have cycle := follows.traced.transGen member longest.defined same.symm
    (.single (.inside remains longest))
  exact Unfolds.not_of_cycle cycle inside_unfolds

theorem Follows.reachToken_ok {available : Bool} {reached : Scanner} (solid : macros.Solid)
    (follows : scanner.Follows macros) (opened : scanner.reachToken = (.ok available, reached)) :
    reached.Follows macros ∧ (∀ key ∈ macros.keys, ¬ key <+: reached.rest) ∧
      ∀ tokens, Yields macros reached.sites tokens ↔ Yields macros scanner.sites tokens := by
  obtain ⟨definitions, expanded, enters, notFound, rfl, _⟩ := reachToken_eq_ok opened
  obtain ⟨expanded_follows, _, expanded_iff⟩ :=
    enters.follows solid follows.skip (settled_skip scanner)
  refine ⟨expanded_follows.skip, ?_, fun tokens => ?_⟩
  · have content : ∀ last ∈ definitions.getLast?, ¬ last.replacement.BlankLed := by
      intro last found
      obtain ⟨entered, rfl⟩ := List.getLast?_eq_some_iff.mp found
      have defined := enters.last.1
      rw [follows.skip.macros_eq] at defined
      exact solid.content last defined
    rw [rest_skip_of_enters enters content, ← expanded_follows.macros_eq]
    exact MacroTable.longestMatch_eq_none_iff.mp notFound
  · rw [Scanner.skip, yields_skipFrom, expanded_iff]
    exact yields_skipFrom false scanner tokens

theorem Follows.reachToken_error {diagnostic : Diagnostic} {stuck : Scanner} (solid : macros.Solid)
    (follows : scanner.Follows macros)
    (stopped : scanner.reachToken = (.error diagnostic, stuck)) :
    diagnostic.kind = .cycle ∧ ∀ tokens, ¬ Yields macros scanner.sites tokens := by
  obtain ⟨definitions, definition, enters, found, refused, rfl⟩ := reachToken_eq_error stopped
  obtain ⟨stuck_follows, stuck_settled, stuck_iff⟩ :=
    enters.follows solid follows.skip (settled_skip scanner)
  refine ⟨rfl, fun tokens yields => ?_⟩
  rw [← yields_skipFrom false, ← Scanner.skip, ← stuck_iff] at yields
  exact stuck_follows.not_yields_of_refused solid stuck_settled found refused tokens yields

/-! ## Rounds -/

theorem tokenLength_of_content {text : Text} (content : ¬ text.BlankLed) :
    Pattern.tokenLength? text = some text.lexeme.length ∧
      text.take text.lexeme.length = text.lexeme := by
  cases text with
  | nil => exact absurd Text.blankLed_nil content
  | cons c rest =>
      rw [Text.blankLed_cons] at content
      rw [Pattern.tokenLength?, Text.lexeme, if_neg content]
      by_cases digit : c.isDigit = true
      · rw [if_pos digit, if_pos digit]
        exact ⟨rfl, Text.take_length_takeWhile _ _⟩
      · rw [if_neg digit, if_neg digit]
        exact ⟨rfl, rfl⟩

/-- In front of content the token of the site is taken. -/
theorem takeToken_of_content (content : ¬ scanner.rest.BlankLed) :
    ∃ after, scanner.takeToken = .advanced (some (scanner.view.site.token scanner.depth)) after ∧
      after.view = scanner.view.consume scanner.rest.lexeme.length ∧
      after.expansions = scanner.expansions ∧ after.macros = scanner.macros := by
  obtain ⟨extended, trims⟩ := scanner.trim_of_parse Pattern.parse_token
  obtain ⟨length_eq, lexeme_eq⟩ := tokenLength_of_content content
  have trimmed : scanner.view.trim Pattern.token =
      (some scanner.rest.lexeme, scanner.view.consume scanner.rest.lexeme.length) := by
    have matched : Pattern.token.matchFront? scanner.view.rest = _ :=
      (Pattern.matchFront_token _).trans length_eq
    rw [View.trim, matched]
    exact congrArg (fun taken => (some taken, _)) lexeme_eq
  have token_eq : scanner.view.site.token scanner.depth =
      ⟨scanner.rest.lexeme, scanner.line, scanner.offset, scanner.depth⟩ := by
    rw [Site.token, line, offset, scanner.view.line_eq, scanner.view.offset_eq]
    simp [View.site, rest]
  refine ⟨{ scanner with view := scanner.view.consume scanner.rest.lexeme.length,
                         patterns := extended }, ?_, rfl, rfl, rfl⟩
  rw [takeToken, trims, trimmed, token_eq]

theorem readDirective_of_unquoted (unquoted : '"' ∉ scanner.pending) :
    scanner.readDirective = (.ok false, scanner) := by
  have no_string : scanner.readString = (.ok none, scanner) := by
    rw [readString]
    split
    · next text opened =>
        have quoted : '"' ∈ scanner.pending := by
          rw [pending, ahead, opened]
          exact List.mem_cons_self
        exact absurd quoted unquoted
    · rfl
  rw [readDirective, no_string]

/-- A round agrees with what sites unfold to: it fails if they do not, it ends if nothing is left,
and otherwise it takes the first of their tokens. -/
def Round.Agrees (macros : MacroTable) (sites : List Site) : Round → Prop
  | .failed diagnostic _ => diagnostic.kind = .cycle ∧ ∀ tokens, ¬ Yields macros sites tokens
  | .finished _ => ∀ tokens, Yields macros sites tokens ↔ tokens = []
  | .advanced token after =>
      ∃ first, token = some first ∧ after.Follows macros ∧
        ∀ tokens, Yields macros sites tokens ↔
          ∃ later, Yields macros after.sites later ∧ tokens = first :: later

theorem Follows.takeToken (follows : scanner.Follows macros) (content : ¬ scanner.rest.BlankLed)
    (notFound : ∀ key ∈ macros.keys, ¬ key <+: scanner.rest) :
    scanner.takeToken.Agrees macros scanner.sites := by
  obtain ⟨after, taken, view_eq, expansions_eq, macros_eq⟩ := takeToken_of_content content
  have settled : scanner.Settled := Site.skip_of_content (.inr content)
  have remains : scanner.view.site.skip.rest ≠ [] := by
    rw [settled]
    intro nothing
    exact content (nothing ▸ Text.blankLed_nil : Text.BlankLed scanner.view.site.rest)
  have plain : ∀ key ∈ macros.keys, ¬ key <+: scanner.view.site.skip.rest := by
    rw [settled]
    exact notFound
  have site_eq : after.view.site =
      scanner.view.site.skip.advance scanner.view.site.skip.rest.lexeme.length := by
    rw [settled, view_eq]
    exact View.site_consume scanner.view _
  rw [taken]
  refine ⟨_, rfl, ⟨macros_eq.trans follows.macros_eq, ?_, ?_⟩, fun tokens => ?_⟩
  · have takes := takes_consume _ view_eq expansions_eq
    exact fun member => follows.unquoted (takes.pending_eq ▸ List.mem_append_right _ member)
  · rw [site_eq, expansions_eq]
    exact follows.traced.step (.next remains plain)
  · rw [sites, sites, site_eq, expansions_eq, Yields.token_iff remains plain, settled,
      List.length_map]
    rfl

theorem yields_of_exhausted {tokens : List Token} (exhausted : scanner.skip.2.isExhausted = true) :
    Yields macros scanner.skip.2.sites tokens ↔ tokens = [] := by
  have rest_nil : scanner.skip.2.view.site.rest = [] := List.isEmpty_iff.mp exhausted
  rcases ahead_skip_shape scanner with content | ⟨_, outside⟩
  · have blank : scanner.skip.2.view.site.rest.BlankLed := rest_nil ▸ Text.blankLed_nil
    exact absurd blank content
  · have frames_nil := List.length_eq_zero_iff.mp outside
    have nothing : scanner.skip.2.view.site.skip.rest = [] := by
      rw [settled_skip, rest_nil]
    rw [sites, frames_nil]
    exact Yields.finished_iff nothing

theorem Follows.round (solid : macros.Solid) (follows : scanner.Follows macros) :
    scanner.round.Agrees macros scanner.sites := by
  rcases gate : scanner.reachToken with ⟨answer, reached⟩
  rw [Scanner.round, gate]
  cases answer with
  | error diagnostic => exact follows.reachToken_error solid gate
  | ok available =>
      obtain ⟨reached_follows, notFound, reached_iff⟩ := follows.reachToken_ok solid gate
      obtain ⟨_, expanded, _, _, rfl, available_eq⟩ := reachToken_eq_ok gate
      cases available with
      | false =>
          have exhausted : expanded.skip.2.isExhausted = true := by simpa using available_eq
          exact fun tokens => (reached_iff tokens).symm.trans (yields_of_exhausted exhausted)
      | true =>
          have content := content_of_open gate
          have agrees := reached_follows.takeToken content notFound
          dsimp only
          rw [readDirective_of_unquoted reached_follows.unquoted]
          dsimp only
          obtain ⟨after, taken, _⟩ := takeToken_of_content content
          rw [taken] at agrees ⊢
          obtain ⟨first, same, after_follows, after_iff⟩ := agrees
          exact ⟨first, same, after_follows, fun tokens =>
            (reached_iff tokens).symm.trans (after_iff tokens)⟩

/-! ## Whole scans -/

/-- The rest of a scan takes what the sites unfold to, and a cycle is reported if they do not. -/
theorem Follows.scanFrom (solid : macros.Solid) (follows : scanner.Follows macros)
    (taken : List Token) :
    (∀ {answer after}, scanner.scanFrom taken = (.ok answer, after) →
      ∃ rest, answer = taken.reverse ++ rest ∧
        ∀ tokens, Yields macros scanner.sites tokens ↔ tokens = rest) ∧
    (∀ {diagnostic after}, scanner.scanFrom taken = (.error diagnostic, after) →
      diagnostic.kind = .cycle ∧ ∀ tokens, ¬ Yields macros scanner.sites tokens) := by
  fun_induction Scanner.scanFrom taken scanner with
  | case1 taken scanner diagnostic after ended =>
      have agrees := follows.round solid
      rw [ended] at agrees
      refine ⟨fun success => ?_, fun failure => ?_⟩
      · cases success
      · cases failure
        exact agrees
  | case2 taken scanner after ended =>
      have agrees := follows.round solid
      rw [ended] at agrees
      refine ⟨fun success => ?_, fun failure => ?_⟩
      · cases success
        exact ⟨[], (List.append_nil _).symm, agrees⟩
      · cases failure
  | case3 taken scanner token after ended ih =>
      have agrees := follows.round solid
      rw [ended] at agrees
      obtain ⟨first, rfl, after_follows, after_iff⟩ := agrees
      obtain ⟨ok, error⟩ := ih after_follows
      refine ⟨fun success => ?_, fun failure => ?_⟩
      · obtain ⟨rest, rfl, rest_iff⟩ := ok success
        refine ⟨first :: rest, by simp, fun tokens => ?_⟩
        simp only [after_iff, rest_iff, exists_eq_left]
      · obtain ⟨kind_eq, none_left⟩ := error failure
        refine ⟨kind_eq, fun tokens yields => ?_⟩
        obtain ⟨later, later_yields, _⟩ := (after_iff tokens).mp yields
        exact none_left later later_yields

/-- A scan of a text takes the tokens of its unfolding, and reports a cycle exactly if the text has
none because something in it needs itself forever. -/
theorem scanTokens_unfolds (text : Text) (patterns : PatternCache) (macros : MacroTable)
    (solid : macros.Solid) (unquoted : '"' ∉ (withPatterns text patterns).source) :
    let scanner := { withPatterns text patterns with macros := macros }
    (∀ tokens, (∃ after, scanner.scanTokens = (.ok tokens, after)) ↔
      Unfolds macros 0 (.start scanner.source) tokens) ∧
    ((∃ diagnostic after, scanner.scanTokens = (.error diagnostic, after) ∧
      diagnostic.kind = .cycle) ↔ ∀ tokens, ¬ Unfolds macros 0 (.start scanner.source) tokens) ∧
    ((∀ tokens, ¬ Unfolds macros 0 (.start scanner.source) tokens) ↔
      ∃ branch : Nat → Site, branch 0 = .start scanner.source ∧
        ∀ level, Needs macros (branch (level + 1)) (branch level)) := by
  intro scanner
  have pending_eq : scanner.pending = scanner.source := List.append_nil _
  have follows : scanner.Follows macros := ⟨rfl, pending_eq ▸ unquoted, trivial⟩
  have yields_iff (tokens : List Token) :
      Yields macros scanner.sites tokens ↔ Unfolds macros 0 (.start scanner.source) tokens :=
    Yields.single_iff
  obtain ⟨ok, error⟩ := follows.scanFrom solid []
  simp only [yields_iff] at ok error
  have infinite_iff : (∀ tokens, ¬ Unfolds macros 0 (.start scanner.source) tokens) ↔
      ∃ branch : Nat → Site, branch 0 = .start scanner.source ∧
        ∀ level, Needs macros (branch (level + 1)) (branch level) := by
    rw [← not_exists, Unfolds.exists_iff_acc]
    exact not_acc_iff_exists_descending_chain
  rcases scanned : scanner.scanTokens with ⟨answer, last⟩
  cases answer with
  | ok taken =>
      obtain ⟨_, rfl, unfolds_iff⟩ := ok scanned
      refine ⟨fun tokens => ?_, ?_, infinite_iff⟩
      · rw [unfolds_iff]
        constructor
        · rintro ⟨after, same⟩
          cases same
          rfl
        · rintro rfl
          exact ⟨last, rfl⟩
      · constructor
        · rintro ⟨diagnostic, after, same, _⟩
          cases same
        · intro none_unfolds
          exact absurd ((unfolds_iff taken).mpr rfl) (none_unfolds taken)
  | error diagnostic =>
      obtain ⟨kind_eq, none_unfolds⟩ := error scanned
      refine ⟨fun tokens => ?_, ?_, infinite_iff⟩
      · constructor
        · rintro ⟨after, same⟩
          cases same
        · intro unfolds
          exact absurd unfolds (none_unfolds tokens)
      · constructor
        · exact fun _ => none_unfolds
        · exact fun _ => ⟨diagnostic, last, rfl, kind_eq⟩

/-- A macro inside the replacement of another. -/
def chainedMacros : MacroTable :=
  (MacroTable.empty.define ['A'] ['B', '!']).define ['B'] ['1', '2']

/-- A macro inside its own replacement. -/
def loopedMacro : MacroTable :=
  MacroTable.empty.define ['A'] ['A', '!']

theorem unfolds_chainedMacros :
    Unfolds chainedMacros 0 (.start ['A', ';'])
      [⟨['1', '2'], 1, 0, 2⟩, ⟨['!'], 1, 1, 1⟩, ⟨[';'], 1, 1, 0⟩] := by
  have digits : Unfolds chainedMacros 2 (.start ['1', '2']) [⟨['1', '2'], 1, 0, 2⟩] :=
    .token (by decide) (by decide) (.finished rfl)
  have bang : Unfolds chainedMacros 1 ⟨['B'], ['!']⟩ [⟨['!'], 1, 1, 1⟩] :=
    .token (by decide) (by decide) (.finished rfl)
  have semicolon : Unfolds chainedMacros 0 ⟨['A'], [';']⟩ [⟨[';'], 1, 1, 0⟩] :=
    .token (by decide) (by decide) (.finished rfl)
  have inner : chainedMacros.Longest (Site.start ['B', '!']).skip.rest ⟨['B'], ['1', '2']⟩ :=
    MacroTable.longestMatch_eq_some_iff.mp rfl
  have outer : chainedMacros.Longest (Site.start ['A', ';']).skip.rest ⟨['A'], ['B', '!']⟩ :=
    MacroTable.longestMatch_eq_some_iff.mp rfl
  exact .key (by decide) outer (.key (by decide) inner digits bang) semicolon

theorem needs_loopedMacro : Needs loopedMacro (.start ['A', '!']) (.start ['A', '!']) := by
  have longest : loopedMacro.Longest (Site.start ['A', '!']).skip.rest ⟨['A'], ['A', '!']⟩ :=
    MacroTable.longestMatch_eq_some_iff.mp rfl
  exact .inside (by decide) longest

theorem scanTokens_unfolds_chained_looped :
    (chainedMacros.Solid ∧ '"' ∉ (withPatterns ['A', ';'] .empty).source ∧
      ∃ after, scanTokens { withPatterns ['A', ';'] .empty with macros := chainedMacros } =
        (.ok [⟨['1', '2'], 1, 0, 2⟩, ⟨['!'], 1, 1, 1⟩, ⟨[';'], 1, 1, 0⟩], after)) ∧
    loopedMacro.Solid ∧ '"' ∉ (withPatterns ['A', '!'] .empty).source ∧
      ∃ diagnostic after, scanTokens { withPatterns ['A', '!'] .empty with macros := loopedMacro } =
        (.error diagnostic, after) ∧ diagnostic.kind = .cycle := by
  have chained_solid : chainedMacros.Solid := ⟨by decide, by decide, by decide⟩
  have looped_solid : loopedMacro.Solid := ⟨by decide, by decide, by decide⟩
  refine ⟨⟨chained_solid, by decide, ?_⟩, looped_solid, by decide, ?_⟩
  · have agrees := scanTokens_unfolds ['A', ';'] .empty chainedMacros chained_solid (by decide)
    exact (agrees.1 _).mpr unfolds_chainedMacros
  · have agrees := scanTokens_unfolds ['A', '!'] .empty loopedMacro looped_solid (by decide)
    exact agrees.2.1.mpr (agrees.2.2.mpr ⟨fun _ => _, rfl, fun _ => needs_loopedMacro⟩)

end Scanner
end MmlScan
