import MmlScan.Token

/-!
# Scanning makes progress

Scanning cannot go on forever, although the table grows while it goes on.  Every buffer, key and
replacement that a run can ever meet is left over from a text it starts with, by leaving out
characters: there are only finitely many, the vocabulary of the run.

The pending text is weighed with that in mind.  The characters that remain in the buffer of an
expansion count less, by a factor that exceeds the length of every text of the vocabulary, than
those that remain around it, because one more key of the vocabulary is being expanded.  So replacing
a key by its replacement makes the pending text lighter, and so does taking a token or a
directive; leaving an exhausted expansion changes nothing.
-/

namespace MmlScan

namespace Text

/-- The texts that are left over from a text by leaving out characters. -/
def leftovers : Text → List Text
  | [] => [[]]
  | c :: rest => leftovers rest ++ (leftovers rest).map (c :: ·)

theorem mem_leftovers_iff {part text : Text} : part ∈ leftovers text ↔ part.Sublist text := by
  constructor
  · intro leftOver
    induction text generalizing part with
    | nil => simp_all [leftovers]
    | cons c rest ih =>
        rcases List.mem_append.mp leftOver with without | withHead
        · exact (ih without).cons c
        · obtain ⟨tail, found, rfl⟩ := List.mem_map.mp withHead
          exact (ih found).cons_cons c
  · intro leftOver
    induction leftOver with
    | slnil => simp [leftovers]
    | cons c _ ih => exact List.mem_append_left _ ih
    | cons_cons c _ ih => exact List.mem_append_right _ (List.mem_map_of_mem ih)

end Text

/-- A set of texts that holds whatever is left over from its members. -/
def IsVocabulary (vocabulary : List Text) : Prop :=
  ∀ text ∈ vocabulary, ∀ part : Text, part.Sublist text → part ∈ vocabulary

namespace Expansion

/-- The text that is read after the expansion. -/
def pending (frame : Expansion) : Text :=
  (Text.splitAt frame.enclosing.buffer frame.resume).2

end Expansion

namespace Scanner

/-- The texts that a scanner holds. -/
def texts (scanner : Scanner) : List Text :=
  scanner.buffer :: scanner.expansions.frames.map (·.enclosing.buffer) ++
    scanner.macros.entries.flatMap fun definition => [definition.key, definition.replacement]

/-- The texts that a run of the scanner can meet. -/
def vocabulary (scanner : Scanner) : List Text :=
  scanner.texts.flatMap Text.leftovers

theorem isVocabulary (scanner : Scanner) : IsVocabulary scanner.vocabulary := by
  intro text found part leftOver
  obtain ⟨whole, held, within⟩ := List.mem_flatMap.mp found
  refine List.mem_flatMap.mpr ⟨whole, held, Text.mem_leftovers_iff.mpr ?_⟩
  exact leftOver.trans (Text.mem_leftovers_iff.mp within)

/-- Every text that the scanner holds belongs to the vocabulary. -/
structure Within (scanner : Scanner) (vocabulary : List Text) : Prop where
  /-- The buffer belongs to the vocabulary. -/
  buffer_mem : scanner.buffer ∈ vocabulary
  /-- So do the buffers around the expansions. -/
  enclosing_mem : ∀ frame ∈ scanner.expansions.frames, frame.enclosing.buffer ∈ vocabulary
  /-- So do the macros. -/
  macros_mem : ∀ definition ∈ scanner.macros.entries,
    definition.key ∈ vocabulary ∧ definition.replacement ∈ vocabulary

theorem within_vocabulary (scanner : Scanner) : scanner.Within scanner.vocabulary := by
  have held : ∀ text ∈ scanner.texts, text ∈ scanner.vocabulary := fun text found =>
    List.mem_flatMap.mpr ⟨text, found, Text.mem_leftovers_iff.mpr (List.Sublist.refl text)⟩
  refine ⟨held _ (by simp [texts]), fun frame found => held _ ?_, fun definition found => ?_⟩
  · exact List.mem_append_left _ (List.mem_cons_of_mem _ (List.mem_map_of_mem found))
  · constructor <;>
      exact held _ (List.mem_append_right _ (List.mem_flatMap.mpr ⟨definition, found, by simp⟩))

/-- The end of a key at the cursor cuts the buffer behind the key. -/
theorem splitAt_of_rest {scanner : Scanner} {key behind : Text}
    (rest_eq : scanner.rest = key ++ behind) :
    Text.splitAt scanner.view.buffer (scanner.offset + Text.size key) =
      (scanner.view.past.reverse ++ key, behind) := by
  have buffer_eq : scanner.view.buffer = (scanner.view.past.reverse ++ key) ++ behind := by
    rw [List.append_assoc, ← rest_eq]
    rfl
  have offset_eq : scanner.offset + Text.size key =
      Text.size (scanner.view.past.reverse ++ key) := by
    rw [Text.size_append, Text.size_reverse, ← scanner.view.offset_eq]
    rfl
  rw [buffer_eq, offset_eq, Text.splitAt_size]

/-- Behind a key at the cursor the buffer goes on as it does. -/
theorem pending_of_rest {scanner : Scanner} {key behind : Text}
    (rest_eq : scanner.rest = key ++ behind) :
    Expansion.pending ⟨key, scanner.view, scanner.offset + Text.size key⟩ = behind := by
  rw [Expansion.pending, splitAt_of_rest rest_eq]

/-! ## Weights -/

/-- A number that exceeds the length of every text of the vocabulary. -/
def base (vocabulary : List Text) : Nat :=
  vocabulary.foldr (fun text total => text.length + total) 1

theorem base_pos (vocabulary : List Text) : 0 < base vocabulary := by
  induction vocabulary with
  | nil => exact Nat.one_pos
  | cons text vocabulary ih => exact Nat.lt_of_lt_of_le ih (Nat.le_add_left _ _)

theorem length_lt_base {vocabulary : List Text} {text : Text} (found : text ∈ vocabulary) :
    text.length < base vocabulary := by
  induction vocabulary with
  | nil => cases found
  | cons head tail ih =>
      have base_cons : base (head :: tail) = head.length + base tail := rfl
      rcases List.mem_cons.mp found with rfl | found
      · exact base_cons ▸ Nat.lt_add_of_pos_right (base_pos tail)
      · exact base_cons ▸ Nat.lt_of_lt_of_le (ih found) (Nat.le_add_left _ _)

/-- Number of texts of the vocabulary that are not among the given keys. -/
def idle (vocabulary keys : List Text) : Nat :=
  (vocabulary.filter fun text => !keys.any (· = text)).length

theorem idle_cons_lt {vocabulary keys : List Text} {key : Text} (found : key ∈ vocabulary)
    (fresh : key ∉ keys) : idle vocabulary (key :: keys) < idle vocabulary keys := by
  refine length_filter_lt key (fun other outside => ?_) found ?_ ?_
  · simp_all
  · have distinct : ∀ other ∈ keys, other ≠ key := fun other member same => fresh (same ▸ member)
    simpa using distinct
  · simp

/-- Weight of a character at a level, where each level counts `base` times the one below. -/
def levelWeight (base : Nat) : Nat → Nat
  | 0 => 1
  | level + 1 => base * levelWeight base level

theorem levelWeight_pos {base : Nat} (base_pos : 0 < base) (level : Nat) :
    0 < levelWeight base level := by
  induction level with
  | zero => exact Nat.one_pos
  | succ level ih => exact Nat.mul_pos base_pos ih

theorem mul_levelWeight_le {base level higher : Nat} (base_pos : 0 < base)
    (level_lt : level < higher) : base * levelWeight base level ≤ levelWeight base higher := by
  induction higher with
  | zero => exact absurd level_lt (Nat.not_lt_zero _)
  | succ higher ih =>
      rcases Nat.lt_succ_iff_lt_or_eq.mp level_lt with below | rfl
      · exact Nat.le_trans (ih below) (Nat.le_mul_of_pos_left _ base_pos)
      · exact Nat.le_refl _

/-- Weight of a character that remains while the given keys are being expanded. -/
def charWeight (vocabulary keys : List Text) : Nat :=
  levelWeight (base vocabulary) (idle vocabulary keys)

/-- Weight of the text that is read after the expansions, innermost first. -/
def framesWeight (vocabulary : List Text) : List Expansion → Nat
  | [] => 0
  | frame :: frames =>
      frame.pending.length * charWeight vocabulary (frames.map (·.key)) +
        framesWeight vocabulary frames

/-- Weight of a text that remains inside expansions, and of all the text that is read after it. -/
def textWeight (vocabulary : List Text) (rest : Text) (frames : List Expansion) : Nat :=
  rest.length * charWeight vocabulary (frames.map (·.key)) + framesWeight vocabulary frames

/-- Weight of all pending text. -/
def weight (scanner : Scanner) (vocabulary : List Text) : Nat :=
  textWeight vocabulary scanner.rest scanner.expansions.frames

theorem charWeight_pos (vocabulary keys : List Text) : 0 < charWeight vocabulary keys :=
  levelWeight_pos (base_pos vocabulary) _

theorem textWeight_lt {vocabulary : List Text} {shorter longer : Text} (frames : List Expansion)
    (length_lt : shorter.length < longer.length) :
    textWeight vocabulary shorter frames < textWeight vocabulary longer frames :=
  Nat.add_lt_add_right (Nat.mul_lt_mul_of_pos_right length_lt (charWeight_pos _ _)) _

theorem textWeight_le {vocabulary : List Text} {shorter longer : Text} (frames : List Expansion)
    (length_le : shorter.length ≤ longer.length) :
    textWeight vocabulary shorter frames ≤ textWeight vocabulary longer frames :=
  Nat.add_le_add_right (Nat.mul_le_mul_right _ length_le) _

/-- Putting a replacement in the place of a key makes the pending text lighter. -/
theorem textWeight_enter_le {vocabulary : List Text} {replacement : Text} {frame : Expansion}
    {frames : List Expansion} (key_mem : frame.key ∈ vocabulary)
    (replacement_mem : replacement ∈ vocabulary) (key_nonempty : frame.key ≠ [])
    (fresh : frame.key ∉ frames.map (·.key)) :
    textWeight vocabulary replacement (frame :: frames) ≤
      textWeight vocabulary (frame.key ++ frame.pending) frames := by
  have key_pos : 0 < frame.key.length := List.length_pos_iff.mpr key_nonempty
  have inner : replacement.length * charWeight vocabulary (frame.key :: frames.map (·.key)) ≤
      frame.key.length * charWeight vocabulary (frames.map (·.key)) :=
    calc
      _ ≤ base vocabulary * charWeight vocabulary (frame.key :: frames.map (·.key)) :=
        Nat.mul_le_mul_right _ (Nat.le_of_lt (length_lt_base replacement_mem))
      _ ≤ charWeight vocabulary (frames.map (·.key)) :=
        mul_levelWeight_le (base_pos vocabulary) (idle_cons_lt key_mem fresh)
      _ ≤ _ := Nat.le_mul_of_pos_left _ key_pos
  simp only [textWeight, framesWeight, List.map_cons, List.length_append, Nat.add_mul]
  omega

/-! ## Passing over blanks -/

theorem within_skipBlanks {scanner : Scanner} {vocabulary : List Text}
    (within : scanner.Within vocabulary) : scanner.skipBlanks.2.Within vocabulary :=
  ⟨by simpa [skipBlanks, withView, buffer] using within.buffer_mem, within.enclosing_mem,
    within.macros_mem⟩

theorem weight_skipBlanks (scanner : Scanner) (vocabulary : List Text) :
    scanner.skipBlanks.2.weight vocabulary ≤ scanner.weight vocabulary := by
  refine textWeight_le _ ?_
  simp [skipBlanks, withView, rest, View.trimWhile]

theorem within_exit {scanner outer : Scanner} {vocabulary : List Text}
    (within : scanner.Within vocabulary) (left : scanner.exit? = some outer) :
    outer.Within vocabulary := by
  obtain ⟨frame, frames, shape, frames_eq, view_eq, _, macros_eq, _⟩ := exit_eq_some left
  have enclosing_mem := within.enclosing_mem
  rw [shape] at enclosing_mem
  constructor
  · rw [buffer, view_eq, View.buffer_reposition]
    exact enclosing_mem frame List.mem_cons_self
  · rw [frames_eq]
    exact fun outer found => enclosing_mem outer (List.mem_cons_of_mem _ found)
  · rw [macros_eq]
    exact within.macros_mem

theorem weight_exit {scanner outer : Scanner} {vocabulary : List Text}
    (exhausted : scanner.isExhausted = true) (left : scanner.exit? = some outer) :
    outer.weight vocabulary = scanner.weight vocabulary := by
  obtain ⟨frame, frames, shape, frames_eq, view_eq, _⟩ := exit_eq_some left
  have rest_nil : scanner.rest = [] := List.isEmpty_iff.mp exhausted
  have rest_eq : outer.rest = frame.pending := by
    rw [rest, view_eq, View.rest_reposition, Expansion.pending]
  rw [weight, weight, rest_nil, rest_eq, shape, frames_eq]
  simp [textWeight, framesWeight]

theorem skipFrom_progress (skipped : Bool) {scanner : Scanner} {vocabulary : List Text}
    (within : scanner.Within vocabulary) :
    (scanner.skipFrom skipped).2.Within vocabulary ∧
      (scanner.skipFrom skipped).2.weight vocabulary ≤ scanner.weight vocabulary := by
  fun_induction skipFrom skipped scanner with
  | case1 skipped scanner run consumed after exhausted outer left ih =>
      have kept := ih (within_exit (within_skipBlanks within) left)
      refine ⟨kept.1, Nat.le_trans kept.2 ?_⟩
      rw [weight_exit exhausted left]
      exact weight_skipBlanks scanner vocabulary
  | case2 => exact ⟨within_skipBlanks within, weight_skipBlanks _ _⟩
  | case3 => exact ⟨within_skipBlanks within, weight_skipBlanks _ _⟩

/-! ## Expanding -/

theorem expandFrom_ok {entered count : Nat} {scanner expanded : Scanner}
    (success : scanner.expandFrom entered = (.ok count, expanded)) :
    expanded.macros = scanner.macros ∧ expanded.macros.longestMatch? expanded.rest = none := by
  fun_induction expandFrom entered scanner with
  | case1 entered scanner notFound =>
      cases success
      exact ⟨rfl, notFound⟩
  | case2 => cases success
  | case3 entered scanner definition found inner begun ih =>
      obtain ⟨expansions, pushed, rfl⟩ := Option.map_eq_some_iff.mp begun
      exact ih success

theorem within_enter {scanner inner : Scanner} {vocabulary : List Text}
    {definition : MacroDefinition} (within : scanner.Within vocabulary)
    (defined : definition ∈ scanner.macros.entries)
    (begun : scanner.enter? definition.key definition.replacement = some inner) :
    inner.Within vocabulary := by
  obtain ⟨_, _, macros_eq, _, view_eq, frames_eq⟩ := enter_eq_some begun
  constructor
  · rw [buffer, view_eq, View.buffer_ofText]
    exact (within.macros_mem definition defined).2
  · intro frame found
    rw [frames_eq] at found
    rcases List.mem_cons.mp found with rfl | found
    · exact within.buffer_mem
    · exact within.enclosing_mem frame found
  · rw [macros_eq]
    exact within.macros_mem

theorem weight_enter {scanner inner : Scanner} {vocabulary : List Text}
    {definition : MacroDefinition} (within : scanner.Within vocabulary)
    (key_nonempty : definition.key ≠ [])
    (found : scanner.macros.longestMatch? scanner.rest = some definition)
    (begun : scanner.enter? definition.key definition.replacement = some inner) :
    inner.weight vocabulary ≤ scanner.weight vocabulary := by
  obtain ⟨key_mem, replacement_mem⟩ :=
    within.macros_mem definition (MacroTable.mem_of_longestMatch found)
  obtain ⟨behind, rest_eq⟩ := MacroTable.append_of_longestMatch found
  obtain ⟨fresh, _, _, _, view_eq, frames_eq⟩ := enter_eq_some begun
  have pending_eq := pending_of_rest rest_eq.symm
  have lighter : textWeight vocabulary definition.replacement
      (⟨definition.key, scanner.view, scanner.offset + Text.size definition.key⟩ ::
        scanner.expansions.frames) ≤ _ :=
    textWeight_enter_le key_mem replacement_mem key_nonempty fresh
  rw [pending_eq, rest_eq] at lighter
  rw [weight, weight, rest, view_eq, frames_eq]
  exact lighter

theorem expandFrom_progress {entered count : Nat} {scanner expanded : Scanner}
    {vocabulary : List Text} (within : scanner.Within vocabulary)
    (success : scanner.expandFrom entered = (.ok count, expanded)) :
    expanded.Within vocabulary ∧ expanded.weight vocabulary ≤ scanner.weight vocabulary := by
  have nonempty : ∀ definition ∈ scanner.macros.entries, definition.key ≠ [] := by
    obtain ⟨sameMacros, notFound⟩ := expandFrom_ok success
    intro definition defined keyEmpty
    rw [sameMacros] at notFound
    have refused := List.find?_eq_none.mp notFound definition defined
    simp [keyEmpty] at refused
  fun_induction expandFrom entered scanner with
  | case1 =>
      cases success
      exact ⟨within, Nat.le_refl _⟩
  | case2 => cases success
  | case3 entered scanner definition found inner begun ih =>
      have defined := MacroTable.mem_of_longestMatch found
      have sameMacros : inner.macros = scanner.macros := by
        obtain ⟨expansions, pushed, rfl⟩ := Option.map_eq_some_iff.mp begun
        rfl
      have kept := ih (within_enter within defined begun) success (sameMacros ▸ nonempty)
      exact ⟨kept.1,
        Nat.le_trans kept.2 (weight_enter within (nonempty definition defined) found begun)⟩

theorem reachToken_progress {scanner reached : Scanner} {vocabulary : List Text}
    (within : scanner.Within vocabulary) (success : scanner.reachToken = (.ok true, reached)) :
    reached.Within vocabulary ∧ reached.weight vocabulary ≤ scanner.weight vocabulary ∧
      reached.rest ≠ [] := by
  rw [reachToken] at success
  split at success
  · cases success
  · next count expanded expansion =>
      have skipped := skipFrom_progress false within
      have entered := expandFrom_progress skipped.1 expansion
      have skippedAgain := skipFrom_progress false entered.1
      injection success with available final
      subst final
      refine ⟨skippedAgain.1,
        Nat.le_trans skippedAgain.2 (Nat.le_trans entered.2 skipped.2), fun rest_nil => ?_⟩
      have exhausted : expanded.skip.2.isExhausted = true := List.isEmpty_iff.mpr rest_nil
      simp [exhausted] at available

/-! ## Taking directives and tokens -/

theorem unquote_eq_some {text body after : Text} (success : unquote? text = some (body, after)) :
    body.Sublist text ∧ after.length < text.length := by
  fun_induction unquote? text generalizing body after with
  | case1 => cases success
  | case2 => cases success; simp
  | case3 => cases success
  | case4 c rest ih =>
      obtain ⟨⟨inner, behind⟩, read, same⟩ := Option.map_eq_some_iff.mp success
      cases same
      obtain ⟨leftOver, shorter⟩ := ih read
      refine ⟨(leftOver.cons_cons c).cons _, ?_⟩
      simp only [List.length_cons]
      omega
  | case5 c rest _ _ _ ih =>
      obtain ⟨⟨inner, behind⟩, read, same⟩ := Option.map_eq_some_iff.mp success
      cases same
      obtain ⟨leftOver, shorter⟩ := ih read
      refine ⟨leftOver.cons_cons c, ?_⟩
      simp only [List.length_cons]
      omega

theorem readString_eq_some {scanner after : Scanner} {body : Text}
    (success : scanner.readString = (.ok (some body), after)) :
    body.Sublist scanner.rest ∧
      ∃ count, 0 < count ∧ after = scanner.withView (scanner.view.consume count) := by
  rw [readString] at success
  split at success
  · next text opened =>
      split at success
      · next inner behind closed =>
          cases success
          obtain ⟨leftOver, shorter⟩ := unquote_eq_some closed
          exact ⟨opened ▸ leftOver.cons _, _, by omega, rfl⟩
      · cases success
  · cases success

theorem readString_eq_none {scanner after : Scanner}
    (failure : scanner.readString = (.ok none, after)) : after = scanner := by
  rw [readString] at failure
  split at failure
  · split at failure <;> cases failure
  · cases failure
    rfl

theorem readString_eq_error {scanner after : Scanner} {diagnostic : Diagnostic}
    (failure : scanner.readString = (.error diagnostic, after)) : after = scanner := by
  rw [readString] at failure
  split at failure
  · split at failure <;> cases failure
    rfl
  · cases failure

theorem trim_sublist (text : Text) : (Text.trim text).Sublist text := by
  have start_sublist : ∀ text : Text, (Text.trimStart text).Sublist text :=
    fun text => List.dropWhile_sublist _
  have inner := (start_sublist (Text.trimStart text).reverse).reverse
  rw [List.reverse_reverse] at inner
  exact inner.trans (start_sublist text)

theorem split_sublist {body key replacement : Text}
    (success : Directive.split body = .ok (key, replacement)) :
    key.Sublist body ∧ replacement.Sublist body := by
  rw [Directive.split] at success
  split at success
  · cases success
  · next equals behind found =>
      dsimp only at success
      split at success
      · cases success
      · cases success
        refine ⟨(trim_sublist _).trans (List.takeWhile_sublist _), ?_⟩
        have behind_sublist : (equals :: replacement).Sublist body :=
          found ▸ List.dropWhile_sublist _
        exact (List.sublist_cons_self equals replacement).trans behind_sublist

theorem within_consume {scanner : Scanner} {vocabulary : List Text} (count : Nat)
    (within : scanner.Within vocabulary) :
    (scanner.withView (scanner.view.consume count)).Within vocabulary :=
  ⟨by simpa [withView, buffer] using within.buffer_mem, within.enclosing_mem, within.macros_mem⟩

theorem weight_consume {scanner : Scanner} {vocabulary : List Text} {count : Nat}
    (count_pos : 0 < count) (remains : scanner.rest ≠ []) :
    (scanner.withView (scanner.view.consume count)).weight vocabulary <
      scanner.weight vocabulary := by
  refine textWeight_lt _ ?_
  have rest_pos : 0 < scanner.view.rest.length := List.length_pos_iff.mpr remains
  simp only [withView, rest, View.rest_consume, List.length_drop]
  omega

theorem within_define {scanner : Scanner} {vocabulary : List Text} {key replacement : Text}
    (within : scanner.Within vocabulary) (key_mem : key ∈ vocabulary)
    (replacement_mem : replacement ∈ vocabulary) :
    (scanner.define key replacement).Within vocabulary := by
  refine ⟨within.buffer_mem, within.enclosing_mem, fun definition found => ?_⟩
  rcases MacroDefinition.mem_insert found with rfl | found
  · exact ⟨key_mem, replacement_mem⟩
  · exact within.macros_mem definition found

theorem readDirective_progress {scanner after : Scanner} {vocabulary : List Text}
    (closed : IsVocabulary vocabulary) (within : scanner.Within vocabulary)
    (remains : scanner.rest ≠ []) (success : scanner.readDirective = (.ok true, after)) :
    after.Within vocabulary ∧ after.weight vocabulary < scanner.weight vocabulary := by
  rw [readDirective] at success
  split at success
  · cases success
  · cases success
  · next body consumed read =>
      split at success
      · next key replacement parts =>
          cases success
          obtain ⟨leftOver, count, count_pos, rfl⟩ := readString_eq_some read
          obtain ⟨key_sublist, replacement_sublist⟩ := split_sublist parts
          have body_sublist : body.Sublist scanner.buffer :=
            leftOver.trans (List.sublist_append_right _ _)
          have member : ∀ part : Text, part.Sublist body → part ∈ vocabulary := fun part inBody =>
            closed _ within.buffer_mem part (inBody.trans body_sublist)
          exact ⟨within_define (within_consume count within) (member _ key_sublist)
            (member _ replacement_sublist), weight_consume count_pos remains⟩
      · cases success

theorem readDirective_eq_false {scanner after : Scanner}
    (success : scanner.readDirective = (.ok false, after)) : after = scanner := by
  rw [readDirective] at success
  split at success
  · cases success
  · next read =>
      cases success
      exact readString_eq_none read
  · split at success <;> cases success

/-- A token has at least one character. -/
theorem token_nonempty {pattern : Pattern} {text : Text} {length : Nat}
    (parsed : Pattern.parse? false Token.pattern = some pattern)
    (success : pattern.matchFront? text = some length) : 0 < length := by
  have shape : Pattern.parse? false Token.pattern =
      some
        (.alt 0
          (.seq (.char 1 (.range '0' '9')) (.more 2 true (.char 1 (.range '0' '9'))))
          (.char 3 (.complement (.named .blank)))) := by
    rfl
  cases shape.symm.trans parsed
  obtain ⟨⟨start, stop⟩, found, rfl⟩ := Option.map_eq_some_iff.mp success
  rcases Pattern.Search.run_eq_some found with kept | reached | longer
  · cases kept
  · simp [Pattern.Search.bestAt, Pattern.Search.threadsAt, Pattern.exploreAll, Pattern.explore,
      Pattern.Frontier.meet, Pattern.Frontier.push, Pattern.Frontier.threads,
      Pattern.Frontier.start, Pattern.Thread.accepted?, List.findSome?_cons] at reached
  · exact longer

theorem takeToken_eq_advanced {scanner after : Scanner} {token : Option Token}
    (success : scanner.takeToken = .advanced token after) :
    ∃ text, scanner.trim Token.pattern false = (.ok (some text), after) ∧
      token = some ⟨text, scanner.line, scanner.offset, scanner.depth⟩ := by
  rw [takeToken] at success
  split at success
  · cases success
  · cases success
  · next text taken trimmed =>
      cases success
      exact ⟨text, trimmed, rfl⟩

theorem takeToken_progress {scanner after : Scanner} {vocabulary : List Text}
    {token : Option Token} (within : scanner.Within vocabulary) (remains : scanner.rest ≠ [])
    (success : scanner.takeToken = .advanced token after) :
    after.Within vocabulary ∧ after.weight vocabulary < scanner.weight vocabulary := by
  obtain ⟨text, trimmed, _⟩ := takeToken_eq_advanced success
  obtain ⟨compiled, patterns, compilation, view_eq, after_eq⟩ := trim_eq_ok trimmed
  obtain ⟨length, found, _, consumed⟩ := View.trim_eq_some view_eq
  have count_pos := token_nonempty (PatternCache.parse?_of_compile compilation) found
  rw [after_eq, consumed]
  exact ⟨⟨(within_consume length within).buffer_mem, within.enclosing_mem, within.macros_mem⟩,
    weight_consume count_pos remains⟩

/-! ## Rounds -/

theorem round_eq_finished {scanner after : Scanner} (ended : scanner.round = .finished after) :
    scanner.reachToken = (.ok false, after) := by
  rw [round] at ended
  split at ended
  · cases ended
  · next gate =>
      cases ended
      exact gate
  · split at ended
    · cases ended
    · cases ended
    · unfold takeToken at ended
      split at ended <;> cases ended

/-- A round that goes on has taken a directive or a token. -/
theorem round_eq_advanced {scanner after : Scanner} {token : Option Token}
    (success : scanner.round = .advanced token after) :
    ∃ reached, scanner.reachToken = (.ok true, reached) ∧
      (reached.readDirective = (.ok true, after) ∧ token = none ∨
        reached.readDirective = (.ok false, reached) ∧ reached.takeToken = .advanced token after) := by
  rw [round] at success
  split at success
  · cases success
  · cases success
  · next reached gate =>
      refine ⟨reached, gate, ?_⟩
      split at success
      · cases success
      · next directive =>
          cases success
          exact .inl ⟨directive, rfl⟩
      · next directive =>
          cases readDirective_eq_false directive
          exact .inr ⟨directive, success⟩

/-- A round of scanning leads from one scanner to another. -/
def Advances (after before : Scanner) : Prop :=
  ∃ token, before.round = .advanced token after

theorem Advances.progress {after before : Scanner} {vocabulary : List Text}
    (closed : IsVocabulary vocabulary) (within : before.Within vocabulary)
    (advances : Advances after before) :
    after.Within vocabulary ∧ after.weight vocabulary < before.weight vocabulary := by
  obtain ⟨token, success⟩ := advances
  obtain ⟨reached, gate, ended⟩ := round_eq_advanced success
  obtain ⟨reachedWithin, reached_le, remains⟩ := reachToken_progress within gate
  rcases ended with ⟨directive, _⟩ | ⟨_, taken⟩
  · obtain ⟨kept, lighter⟩ := readDirective_progress closed reachedWithin remains directive
    exact ⟨kept, Nat.lt_of_lt_of_le lighter reached_le⟩
  · obtain ⟨kept, lighter⟩ := takeToken_progress reachedWithin remains taken
    exact ⟨kept, Nat.lt_of_lt_of_le lighter reached_le⟩

/-- Every run of rounds ends. -/
theorem advances_wellFounded : WellFounded Advances := by
  refine ⟨fun scanner => ?_⟩
  suffices accessible : ∀ bound, ∀ before : Scanner, before.Within scanner.vocabulary →
      before.weight scanner.vocabulary < bound → Acc Advances before from
    accessible _ scanner scanner.within_vocabulary (Nat.lt_succ_self _)
  intro bound
  induction bound with
  | zero => exact fun _ _ impossible => absurd impossible (Nat.not_lt_zero _)
  | succ bound ih =>
      intro before within weight_lt
      refine ⟨_, fun after advances => ?_⟩
      obtain ⟨kept, lighter⟩ := advances.progress scanner.isVocabulary within
      exact ih after kept (Nat.lt_of_lt_of_le lighter (Nat.le_of_lt_succ weight_lt))

instance : WellFoundedRelation Scanner :=
  ⟨Advances, advances_wellFounded⟩

end Scanner
end MmlScan
