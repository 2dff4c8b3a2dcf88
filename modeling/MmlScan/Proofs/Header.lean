import MmlScan.Proofs.Directive

/-!
# Definitions first

A text may begin with directives.  If nothing else in it can be taken for a directive, then the
macros are settled behind this header, and the header settles them in the same way when the text is
scanned once more.  So the second pass repeats the first.
-/

namespace MmlScan

/-- Directives with blanks around them, and what they define. -/
inductive Header : Text → List (Text × Text) → Prop
  | blanks {blanks : Text} (blank : ∀ c ∈ blanks, Text.isBlank c = true) : Header blanks []
  | directive {blanks body string key replacement later : Text} {definitions : List (Text × Text)}
      (blank : ∀ c ∈ blanks, Text.isBlank c = true) (quoted : Quoted body string)
      (parts : Directive.split body = .ok (key, replacement)) (header : Header later definitions) :
      Header (blanks ++ '"' :: (string ++ later)) ((key, replacement) :: definitions)

/-- A header goes on in front of a directive. -/
theorem Header.write {blanks body key replacement later : Text} {definitions : List (Text × Text)}
    (blank : ∀ c ∈ blanks, Text.isBlank c = true)
    (parts : Directive.split body = .ok (key, replacement)) (header : Header later definitions) :
    Header (blanks ++ (Directive.write body ++ later)) ((key, replacement) :: definitions) :=
  .directive blank (quoted_escape body) parts header

/-- A macro that has no part in directives: no quote begins its key, and none is in its
replacement. -/
structure MacroDefinition.Quoteless (definition : MacroDefinition) : Prop where
  key_nonempty : definition.key ≠ []
  key_unquoted : definition.key.head? ≠ some '"'
  replacement_unquoted : '"' ∉ definition.replacement

/-- No macro of the table has part in directives. -/
def MacroTable.Quoteless (table : MacroTable) : Prop :=
  ∀ definition ∈ table.entries, definition.Quoteless

theorem MacroTable.Quoteless.define {table : MacroTable} {key replacement : Text}
    (quoteless : table.Quoteless) (defined : MacroDefinition.Quoteless ⟨key, replacement⟩) :
    (table.define key replacement).Quoteless := by
  intro definition member
  rcases MacroDefinition.mem_insert member with rfl | older
  · exact defined
  · exact quoteless definition older

theorem MacroTable.Quoteless.defineAll {table : MacroTable} {definitions : List (Text × Text)}
    (quoteless : table.Quoteless)
    (defined : ∀ definition ∈ definitions,
      MacroDefinition.Quoteless ⟨definition.1, definition.2⟩) :
    (table.defineAll definitions).Quoteless := by
  induction definitions generalizing table with
  | nil => exact quoteless
  | cons first definitions ih =>
      obtain ⟨first_defined, others⟩ := List.forall_mem_cons.mp defined
      exact ih (quoteless.define first_defined) others

/-- No key begins a directive. -/
theorem MacroTable.Quoteless.not_prefix {table : MacroTable} (quoteless : table.Quoteless)
    {key : Text} (defined : key ∈ table.keys) (text : Text) : ¬ key <+: '"' :: text := by
  obtain ⟨definition, member, rfl⟩ := List.mem_map.mp defined
  obtain ⟨nonempty, unquoted, _⟩ := quoteless definition member
  rintro ⟨behind, begins⟩
  cases shape : definition.key with
  | nil => exact nonempty shape
  | cons c key =>
      rw [shape] at begins unquoted
      exact unquoted (congrArg List.head? begins)

namespace Scanner

/-! ## Through the header -/

/-- A scan through a header leads to a view behind it that has no quote ahead.  The view does not
hang on the macros, as long as they have no part in directives. -/
theorem scanFrom_header {header body : Text} {definitions : List (Text × Text)}
    (written : Header header definitions) (unquoted : '"' ∉ body)
    (defined : ∀ definition ∈ definitions,
      MacroDefinition.Quoteless ⟨definition.1, definition.2⟩)
    (view : View) (rest_eq : view.rest = header ++ body) :
    ∃ settled : View, '"' ∉ settled.rest ∧
      ∀ (taken : List Token) (scanner : Scanner), scanner.view = view →
        scanner.macros.Quoteless →
          scanFrom taken scanner =
            scanFrom taken ((scanner.defineAll definitions).withView settled) := by
  induction written generalizing view with
  | blanks blank =>
      -- the blanks behind the last directive are left for the next round
      refine ⟨view, ?_, fun taken scanner view_eq _ => ?_⟩
      · rw [rest_eq, List.mem_append]
        rintro (member | member)
        · exact absurd (blank _ member) (by decide)
        · exact unquoted member
      · rw [← view_eq]
        rfl
  | @directive blanks _ string key replacement later definitions blank quoted parts header ih =>
      have front_eq : view.rest = blanks ++ '"' :: (string ++ (later ++ body)) := by
        rw [rest_eq]
        simp
      have later_eq :
          ((view.consume blanks.length).consume (string.length + 1)).rest = later ++ body := by
        rw [View.rest_consume, View.rest_consume, front_eq, List.drop_left, List.drop_succ_cons,
          List.drop_left]
      obtain ⟨first, others⟩ := List.forall_mem_cons.mp defined
      obtain ⟨settled, settled_unquoted, leads⟩ := ih others _ later_eq
      refine ⟨settled, settled_unquoted, fun taken scanner view_eq quoteless => ?_⟩
      subst view_eq
      have taken_off := round_of_directive front_eq blank quoted parts
        fun key member => quoteless.not_prefix member _
      have from_there := leads taken ((scanner.withView
        ((scanner.view.consume blanks.length).consume (string.length + 1))).define key replacement)
        rfl (quoteless.define first)
      rw [defineAll_eq] at from_there ⊢
      rw [scanFrom_eq, taken_off]
      exact from_there

/-! ## Behind the header -/

/-- The scanner reads with a table, and nothing ahead of it is a directive. -/
structure ReadsOnly (macros : MacroTable) (scanner : Scanner) : Prop where
  macros_eq : scanner.macros = macros
  unquoted : '"' ∉ scanner.pending

namespace ReadsOnly

variable {macros : MacroTable} {scanner : Scanner}

theorem skip (reads : scanner.ReadsOnly macros) : scanner.skip.2.ReadsOnly macros where
  macros_eq := (macros_skipFrom false scanner).trans reads.macros_eq
  unquoted := by
    rw [pending_skip]
    exact fun member => reads.unquoted (List.dropWhile_subset _ member)

theorem enter {inner : Scanner} {definition : MacroDefinition} (quoteless : macros.Quoteless)
    (reads : scanner.ReadsOnly macros)
    (found : scanner.macros.longestMatch? scanner.rest = some definition)
    (begun : scanner.enter? definition.key definition.replacement = some inner) :
    inner.ReadsOnly macros := by
  obtain ⟨_, _, macros_eq, _⟩ := enter_eq_some begun
  refine ⟨macros_eq.trans reads.macros_eq, ?_⟩
  apply (edits_enter found begun).not_mem reads.unquoted
  intro edit member
  rw [List.mem_singleton.mp member]
  have defined := MacroTable.mem_of_longestMatch found
  rw [reads.macros_eq] at defined
  exact (quoteless _ defined).replacement_unquoted

theorem enters {definitions : List MacroDefinition} {after : Scanner}
    (quoteless : macros.Quoteless) (enters : Enters definitions scanner after)
    (reads : scanner.ReadsOnly macros) : after.ReadsOnly macros := by
  induction enters with
  | nil => exact reads
  | cons found begun _ ih => exact ih (reads.enter quoteless found begun)

theorem reachToken (quoteless : macros.Quoteless) (reads : scanner.ReadsOnly macros) :
    scanner.reachToken.2.ReadsOnly macros := by
  obtain ⟨definitions, entered⟩ := enters_expand scanner.skip.2
  have expanded := ReadsOnly.enters quoteless entered reads.skip
  rcases reachToken_cases scanner with reached | reached
  · rw [reached]
    exact expanded
  · rw [reached]
    exact expanded.skip

theorem takeToken (reads : scanner.ReadsOnly macros) :
    scanner.takeToken.scanner.ReadsOnly macros := by
  rcases trimmed : scanner.trim Token.pattern false with ⟨answer, after⟩
  rw [Scanner.takeToken, trimmed]
  cases answer with
  | error diagnostic => exact trim_eq_error trimmed ▸ reads
  | ok taken =>
      obtain ⟨compiled, patterns, _, view_eq, after_eq⟩ := trim_eq_ok trimmed
      have macros_eq : after.macros = macros := by
        rw [after_eq]
        exact reads.macros_eq
      cases taken with
      | none =>
          refine ⟨macros_eq, ?_⟩
          rw [Round.scanner, after_eq, View.trim_eq_none view_eq]
          exact reads.unquoted
      | some text =>
          have pending_eq := (takes_trim trimmed).pending_eq
          exact ⟨macros_eq, fun member =>
            reads.unquoted (pending_eq ▸ List.mem_append_right text member)⟩

theorem round (quoteless : macros.Quoteless) (reads : scanner.ReadsOnly macros) :
    scanner.round.scanner.ReadsOnly macros := by
  have reached := reads.reachToken quoteless
  have stays := readDirective_of_unquoted reached.unquoted
  rcases round_cases scanner with ⟨ended, _⟩ | ⟨ended, _⟩ | ended
  · rw [ended]
    exact reached
  · rw [ended, stays]
    exact reached
  · rw [ended, stays]
    exact reached.takeToken

/-- Where no directive can be met, a scan leaves the macros as they are. -/
theorem scanFrom (quoteless : macros.Quoteless) (reads : scanner.ReadsOnly macros)
    (taken : List Token) : (scanFrom taken scanner).2.ReadsOnly macros := by
  fun_induction Scanner.scanFrom taken scanner with
  | case1 taken scanner diagnostic after ended =>
      have last := reads.round quoteless
      rwa [ended] at last
  | case2 taken scanner after ended =>
      have last := reads.round quoteless
      rwa [ended] at last
  | case3 taken scanner token after ended ih =>
      have first := reads.round quoteless
      rw [ended] at first
      exact ih first

end ReadsOnly

/-! ## Two passes -/

/-- A scan of a text with definitions first leaves what the header defines, and a scan that begins
with that gives the same answer. -/
theorem scanTokens_header {text header body : Text} {definitions : List (Text × Text)}
    {macros : MacroTable} (patterns : PatternCache)
    (source_eq : withoutByteOrderMark text = header ++ body)
    (written : Header header definitions) (unquoted : '"' ∉ body) (predefined : macros.Quoteless)
    (defined : ∀ definition ∈ definitions,
      MacroDefinition.Quoteless ⟨definition.1, definition.2⟩) :
    (scanTokens { withPatterns text patterns with macros := macros }).2.macros =
        macros.defineAll definitions ∧
      scanTokens { withPatterns text patterns with macros := macros.defineAll definitions } =
        scanTokens { withPatterns text patterns with macros := macros } := by
  have settled_quoteless := predefined.defineAll defined
  obtain ⟨settled, settled_unquoted, leads⟩ :=
    scanFrom_header written unquoted defined (.ofText (header ++ body)) rfl
  have view_eq : (withPatterns text patterns).view = .ofText (header ++ body) :=
    congrArg View.ofText source_eq
  have first := leads [] { withPatterns text patterns with macros := macros } view_eq predefined
  have second := leads []
    { withPatterns text patterns with macros := macros.defineAll definitions } view_eq
    settled_quoteless
  rw [defineAll_eq] at first second
  -- both scans go through one view, so that only what is defined twice could tell them apart
  rw [MacroTable.defineAll_defineAll] at second
  have reads : ReadsOnly (macros.defineAll definitions)
      (withView { withPatterns text patterns with
        macros := macros.defineAll definitions } settled) := by
    refine ⟨rfl, ?_⟩
    rw [pending, ahead]
    simpa [withView, withPatterns, Expansions.empty, rest] using settled_unquoted
  constructor
  · rw [scanTokens, first]
    exact (reads.scanFrom settled_quoteless []).macros_eq
  · rw [scanTokens, scanTokens, first]
    exact second

/-- If a text has its definitions first and its first pass succeeds, then the second pass repeats
it and leaves the macros that the first has left. -/
theorem definitions_first_replay {text header body : Text} {definitions : List (Text × Text)}
    {macros : MacroTable} {patterns : PatternCache} {tokens : List Token} {between : Scanner}
    (source_eq : withoutByteOrderMark text = header ++ body)
    (written : Header header definitions) (unquoted : '"' ∉ body) (predefined : macros.Quoteless)
    (defined : ∀ definition ∈ definitions,
      MacroDefinition.Quoteless ⟨definition.1, definition.2⟩)
    (succeeded : scanTokens { withPatterns text patterns with macros := macros } =
      (.ok tokens, between)) :
    ∃ after, scanTwice { withPatterns text patterns with macros := macros } =
        (.ok ⟨tokens, tokens⟩, after) ∧
      Replay.isIdentical ⟨tokens, tokens⟩ = true ∧
      Replay.firstDivergence? ⟨tokens, tokens⟩ = none ∧
      after.macros = between.macros := by
  obtain ⟨left, repeated⟩ :=
    scanTokens_header patterns source_eq written unquoted predefined defined
  rw [succeeded] at left repeated
  have left : between.macros = macros.defineAll definitions := left
  rw [← left] at repeated
  obtain ⟨after, twice, alike⟩ := scanTwice_of_rescan succeeded repeated
  exact ⟨after, twice, decide_eq_true rfl, Replay.firstDivergence_self tokens,
    alike.macros_eq.symm⟩

/-- Three definitions, of which the last replaces the first. -/
def redefiningHeader : Text :=
  [] ++ (Directive.write ['A', '=', 'x'] ++ ([' '] ++ (Directive.write ['B', '=', 'A', '9'] ++
    (['\n'] ++ (Directive.write ['A', '=', 'y'] ++ [])))))

theorem header_redefiningHeader :
    Header redefiningHeader [(['A'], ['x']), (['B'], ['A', '9']), (['A'], ['y'])] := by
  have space : ∀ c ∈ [' '], Text.isBlank c = true := List.forall_mem_singleton.mpr rfl
  have newline : ∀ c ∈ ['\n'], Text.isBlank c = true := List.forall_mem_singleton.mpr rfl
  have nothing : ∀ c ∈ [], Text.isBlank c = true := by simp
  exact .write nothing rfl (.write space rfl (.write newline rfl (.blanks nothing)))

theorem definitions_first_replay_redefiningHeader :
    ∃ after, scanTwice { withPatterns (redefiningHeader ++ ['B', 'C', ';']) .empty with
        macros := MacroTable.empty.define ['C'] ['q'] } =
      (.ok ⟨[⟨['y'], 1, 0, 2⟩, ⟨['9'], 1, 1, 1⟩, ⟨['q'], 1, 0, 1⟩, ⟨[';'], 2, 20, 0⟩],
        [⟨['y'], 1, 0, 2⟩, ⟨['9'], 1, 1, 1⟩, ⟨['q'], 1, 0, 1⟩, ⟨[';'], 2, 20, 0⟩]⟩, after) ∧
      after.macros.keys = [['A'], ['B'], ['C']] := by
  have scanned : (scanWithin 10 [] { withPatterns (redefiningHeader ++ ['B', 'C', ';']) .empty with
      macros := MacroTable.empty.define ['C'] ['q'] }).map
        (fun answer => (answer.1.toOption, answer.2.macros)) =
          some (some [⟨['y'], 1, 0, 2⟩, ⟨['9'], 1, 1, 1⟩, ⟨['q'], 1, 0, 1⟩, ⟨[';'], 2, 20, 0⟩],
            (MacroTable.empty.define ['C'] ['q']).defineAll
              [(['A'], ['x']), (['B'], ['A', '9']), (['A'], ['y'])]) := by
    decide +kernel
  obtain ⟨between, success, between_macros⟩ := scanTokens_of_scanWithin scanned
  have predefined : (MacroTable.empty.define ['C'] ['q']).Quoteless := by
    intro definition member
    cases List.mem_singleton.mp member
    exact ⟨by decide, by decide, by decide⟩
  have defined : ∀ definition ∈ [(['A'], ['x']), (['B'], ['A', '9']), (['A'], ['y'])],
      MacroDefinition.Quoteless ⟨definition.1, definition.2⟩ := by
    intro definition member
    simp only [List.mem_cons, List.not_mem_nil, or_false] at member
    rcases member with rfl | rfl | rfl <;> exact ⟨by decide, by decide, by decide⟩
  obtain ⟨after, twice, _, _, macros_eq⟩ := definitions_first_replay rfl header_redefiningHeader
    (by decide) predefined defined success
  refine ⟨after, twice, ?_⟩
  rw [macros_eq, between_macros]
  decide +kernel

end Scanner
end MmlScan
