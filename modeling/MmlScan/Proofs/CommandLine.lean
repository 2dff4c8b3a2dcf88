import MmlScan.Proofs.Spelling

/-!
# Reading what was written

Reading a command line that spells an invocation gives the invocation back.  A value is looked at
one word later than it is read, so the state of reading is compared by what it settles to: each part
of a command line adds what it says to that, and nothing else.
-/

namespace MmlScan
namespace Command

/-! ## Settling -/

namespace Arguments

variable {arguments settled : Arguments}

theorem define_written {key : Text} (hygienic : key.IsHygienic) (arguments : Arguments)
    (value : Text) :
    arguments.define (written key value) =
      .ok { arguments with definitions := arguments.definitions ++ [(key, value)] } := by
  have split_eq : Directive.split (written key value) = .ok (key, value) :=
    Directive.split_eq_ok_iff.mpr ⟨hygienic, [], [], by simp, by simp, by simp [written]⟩
  rw [define, split_eq]

theorem settle_of_pending (nothing : arguments.pending = .none) :
    arguments.settle = .ok arguments := by
  cases arguments
  cases nothing
  rfl

/-- Looking at the value that has been read changes the definitions and the path only. -/
structure SettlesTo (arguments settled : Arguments) : Prop where
  settle_eq : arguments.settle = .ok settled
  name_eq : arguments.name = settled.name
  verbose_eq : arguments.verbose = settled.verbose
  json_eq : arguments.json = settled.json
  optionsEnded_eq : arguments.optionsEnded = settled.optionsEnded
  hasPath_eq : arguments.hasPath = settled.path.isSome
  /-- No option waits for its value. -/
  complete : arguments.pending ≠ .definition none
  pending_settled : settled.pending = .none

theorem settlesTo_of_settle (settle_eq : arguments.settle = .ok settled) :
    arguments.SettlesTo settled := by
  have shape := settle_eq
  rw [settle] at shape
  rcases pending_eq : arguments.pending with _ | value | value
  · rw [pending_eq] at shape
    cases shape
    exact ⟨settle_eq, rfl, rfl, rfl, rfl, by simp [hasPath, pending_eq], by simp [pending_eq], rfl⟩
  · rcases value with _ | value
    · rw [pending_eq] at shape
      cases shape
    · rw [pending_eq] at shape
      dsimp only [define] at shape
      split at shape
      · cases shape
        exact ⟨settle_eq, rfl, rfl, rfl, rfl, by simp [hasPath, pending_eq], by simp [pending_eq],
          rfl⟩
      · cases shape
  · rcases value with _ | ⟨first, rest⟩
    · rw [pending_eq] at shape
      cases shape
    · rw [pending_eq] at shape
      cases shape
      exact ⟨settle_eq, rfl, rfl, rfl, rfl, by simp [hasPath, pending_eq], by simp [pending_eq],
        rfl⟩

theorem settlesTo_self (nothing : arguments.pending = .none) : arguments.SettlesTo arguments :=
  settlesTo_of_settle (settle_of_pending nothing)

namespace SettlesTo

variable (settles : arguments.SettlesTo settled)
include settles

theorem takeFlag_verbose (unset : settled.verbose = false) :
    arguments.takeFlag .verbose = .ok { settled with verbose := true } := by
  simp only [takeFlag, settles.settle_eq, bind, Except.bind, unset]
  rfl

theorem takeFlag_json (unset : settled.json = false) :
    arguments.takeFlag .json = .ok { settled with json := true } := by
  simp only [takeFlag, settles.settle_eq, bind, Except.bind, unset]
  rfl

theorem takeFlag_define :
    arguments.takeFlag .define = .ok { settled with pending := .definition none } := by
  simp only [takeFlag, settles.settle_eq, bind, Except.bind]

theorem takeAttached_define {key : Text} (hygienic : key.IsHygienic) (value : Text) :
    arguments.takeAttached .define (written key value) =
      .ok { settled with definitions := settled.definitions ++ [(key, value)] } := by
  simp only [takeAttached, settles.settle_eq, bind, Except.bind]
  exact define_written hygienic settled value

end SettlesTo

/-! ## Words -/

section Words

variable (optionsGoOn : arguments.optionsEnded = false)
include optionsGoOn

theorem take_letters {letter : Char} (not_hyphen : letter ≠ '-') (letters : Text) :
    arguments.take ('-' :: letter :: letters) = arguments.takeLetters (letter :: letters) := by
  grind [take]

theorem take_long {word : Text} (nonempty : word ≠ []) :
    arguments.take ('-' :: '-' :: word) = arguments.takeLong word := by
  grind [take]

theorem take_plain {word : Text} (plain : word.head? ≠ some '-') :
    arguments.take word =
      if arguments.pending = .definition none then
        .ok { arguments with pending := .definition (some word) }
      else arguments.takePath word := by
  rw [take, optionsGoOn, if_neg (by decide)]
  · rintro rfl
    exact plain rfl
  · rintro _ rfl
    exact plain rfl
  · rintro _ _ rfl
    exact plain rfl

end Words

section Names

variable {name : Name} (name_eq : arguments.name = some name)
include name_eq

theorem takeLetters_verbose (letters : Text) :
    arguments.takeLetters ('v' :: letters) =
      (do (← arguments.takeFlag .verbose).takeLetters letters) := by
  have found : (switches arguments.name).find? (·.letter? = some 'v') = some .verbose := by
    rw [name_eq]
    cases name <;> decide
  rw [takeLetters.eq_def]
  simp only [found]

theorem find?_define :
    (switches arguments.name).find? (·.letter? = some 'D') = some .define := by
  rw [name_eq]
  cases name <;> decide

theorem takeLetters_define : arguments.takeLetters ['D'] = arguments.takeFlag .define := by
  rw [takeLetters, find?_define name_eq]

/-- A key has no equals sign in front, so only one that sets it off is taken away. -/
theorem takeLetters_written {key : Text} (hygienic : key.IsHygienic) (setOff : Bool)
    (value : Text) :
    arguments.takeLetters ('D' :: ((if setOff then ['='] else []) ++ written key value)) =
      arguments.takeAttached .define (written key value) := by
  cases setOff with
  | true =>
      change arguments.takeLetters ('D' :: '=' :: written key value) = _
      rw [takeLetters, find?_define name_eq]
  | false =>
      obtain ⟨first, rest, rfl⟩ := List.exists_cons_of_ne_nil hygienic.ne_nil
      have not_equals : first ≠ '=' := fun same => hygienic.no_equals (by simp [same])
      change arguments.takeLetters ('D' :: first :: (rest ++ '=' :: value)) = _
      rw [takeLetters.eq_def]
      simp only [find?_define name_eq]
      split
      · next no_rest => cases no_rest
      · next same =>
          cases same
          exact absurd rfl not_equals
      · rfl

theorem takeLong_verbose : arguments.takeLong "verbose".toList = arguments.takeFlag .verbose := by
  rw [takeLong, name_eq]
  cases name <;> rfl

theorem takeLong_define : arguments.takeLong "define".toList = arguments.takeFlag .define := by
  rw [takeLong, name_eq]
  cases name <;> rfl

theorem takeLong_written (key value : Text) :
    arguments.takeLong ("define=".toList ++ written key value) =
      arguments.takeAttached .define (written key value) := by
  rw [takeLong, name_eq]
  cases name <;> rfl

end Names

/-! ## Parts -/

/-- What a part adds to what has been read. -/
def add (arguments : Arguments) : Part → Arguments
  | .verbose _ => { arguments with verbose := true }
  | .json => { arguments with json := true }
  | .attached clustered _ key value =>
      { arguments with
        verbose := arguments.verbose || clustered
        definitions := arguments.definitions ++ [(key, value)] }
  | .assigned key value | .apart _ key value =>
      { arguments with definitions := arguments.definitions ++ [(key, value)] }
  | .path text => { arguments with path := some text }

section Add

variable (arguments) (part : Part)

@[simp] theorem name_add : (arguments.add part).name = arguments.name := by
  cases part <;> rfl

@[simp] theorem pending_add : (arguments.add part).pending = arguments.pending := by
  cases part <;> rfl

@[simp] theorem optionsEnded_add :
    (arguments.add part).optionsEnded = arguments.optionsEnded := by
  cases part <;> rfl

@[simp] theorem verbose_add :
    (arguments.add part).verbose = (arguments.verbose || part.asksVerbose) := by
  cases part <;> simp [add, Part.asksVerbose]

@[simp] theorem json_add : (arguments.add part).json = (arguments.json || part.asksJson) := by
  cases part <;> simp [add, Part.asksJson]

@[simp] theorem definitions_add :
    (arguments.add part).definitions = arguments.definitions ++ part.definition?.toList := by
  cases part <;> simp [add, Part.definition?]

@[simp] theorem path_add : (arguments.add part).path = part.path?.or arguments.path := by
  cases part <;> rfl

end Add

/-- There is room for parts: nothing is asked for twice, and the command has all of it. -/
structure HasRoom (arguments : Arguments) (parts : List Part) : Prop where
  name : ∃ name, arguments.name = some name ∧ (name = .tokens ∨ parts.countP Part.asksJson = 0)
  optionsGoOn : arguments.optionsEnded = false
  verbose : arguments.verbose.toNat + parts.countP Part.asksVerbose ≤ 1
  json : arguments.json.toNat + parts.countP Part.asksJson ≤ 1
  path : arguments.path.toList.length + (parts.filterMap Part.path?).length ≤ 1

theorem unset_of_once {flag : Bool} {others : Nat} (once : flag.toNat + (others + 1) ≤ 1) :
    flag = false := by
  cases flag with
  | false => rfl
  | true =>
      rw [Bool.toNat_true] at once
      omega

theorem once_or {flag asks : Bool} {others : Nat}
    (once : flag.toNat + (others + if asks = true then 1 else 0) ≤ 1) :
    (flag || asks).toNat + others ≤ 1 := by
  cases flag with
  | false => cases asks <;> simpa [Nat.add_comm] using once
  | true =>
      rw [Bool.true_or]
      omega

namespace HasRoom

variable {part : Part} {parts : List Part} (room : arguments.HasRoom (part :: parts))
include room

theorem verbose_unset (asks : part.asksVerbose = true) : arguments.verbose = false := by
  have once := room.verbose
  rw [List.countP_cons_of_pos asks] at once
  exact unset_of_once once

theorem json_unset (asks : part.asksJson = true) : arguments.json = false := by
  have once := room.json
  rw [List.countP_cons_of_pos asks] at once
  exact unset_of_once once

theorem path_unset {text : Text} (gives : part.path? = some text) : arguments.path = none := by
  have once := room.path
  rw [List.filterMap_cons_some gives, List.length_cons] at once
  cases set : arguments.path with
  | none => rfl
  | some other =>
      rw [set, Option.toList_some, List.length_singleton] at once
      omega

/-- What a part takes is no longer there for the others. -/
theorem add : (arguments.add part).HasRoom parts where
  name := by
    obtain ⟨name, name_eq, named⟩ := room.name
    refine ⟨name, (name_add arguments part).trans name_eq, named.imp_right fun none => ?_⟩
    rw [List.countP_cons] at none
    omega
  optionsGoOn := (optionsEnded_add arguments part).trans room.optionsGoOn
  verbose := by
    have once := room.verbose
    rw [List.countP_cons] at once
    rw [verbose_add]
    exact once_or once
  json := by
    have once := room.json
    rw [List.countP_cons] at once
    rw [json_add]
    exact once_or once
  path := by
    have once := room.path
    rw [path_add]
    cases gives : part.path? with
    | none =>
        rw [List.filterMap_cons_none gives] at once
        exact once
    | some text =>
        rw [room.path_unset gives, List.filterMap_cons_some gives, List.length_cons] at once
        simpa [Nat.add_comm] using once

end HasRoom

/-! ## Reading parts -/

section Take

variable {name : Name} (settles : arguments.SettlesTo settled)
  (optionsGoOn : arguments.optionsEnded = false) (name_eq : arguments.name = some name)
include settles optionsGoOn name_eq

theorem take_verboseWord (unset : settled.verbose = false) (form : Form) :
    arguments.take form.verboseWord = .ok { settled with verbose := true } := by
  cases form with
  | letter =>
      change arguments.take ['-', 'v'] = _
      rw [take_letters optionsGoOn (by decide), takeLetters_verbose name_eq,
        settles.takeFlag_verbose unset]
      rfl
  | full =>
      change arguments.take ('-' :: '-' :: "verbose".toList) = _
      rw [take_long optionsGoOn (by decide), takeLong_verbose name_eq,
        settles.takeFlag_verbose unset]

theorem take_json (named : name = .tokens) (unset : settled.json = false) :
    arguments.take "--json".toList = .ok { settled with json := true } := by
  change arguments.take ('-' :: '-' :: "json".toList) = _
  rw [take_long optionsGoOn (by decide), takeLong, name_eq, named]
  exact settles.takeFlag_json unset

theorem take_attached {key : Text} (hygienic : key.IsHygienic) (setOff : Bool) (value : Text) :
    arguments.take ('-' :: 'D' :: ((if setOff then ['='] else []) ++ written key value)) =
      .ok { settled with definitions := settled.definitions ++ [(key, value)] } := by
  rw [take_letters optionsGoOn (by decide), takeLetters_written name_eq hygienic,
    settles.takeAttached_define hygienic]

theorem take_clustered (unset : settled.verbose = false) {key : Text} (hygienic : key.IsHygienic)
    (setOff : Bool) (value : Text) :
    arguments.take ('-' :: 'v' :: 'D' :: ((if setOff then ['='] else []) ++ written key value)) =
      .ok { settled with
        verbose := true, definitions := settled.definitions ++ [(key, value)] } := by
  let between : Arguments := { settled with verbose := true }
  have between_settles : between.SettlesTo between := settlesTo_self settles.pending_settled
  have between_name : between.name = some name := settles.name_eq.symm.trans name_eq
  rw [take_letters optionsGoOn (by decide), takeLetters_verbose name_eq,
    settles.takeFlag_verbose unset]
  exact (takeLetters_written between_name hygienic setOff value).trans
    (between_settles.takeAttached_define hygienic value)

theorem take_assigned {key : Text} (hygienic : key.IsHygienic) (value : Text) :
    arguments.take ("--define=".toList ++ written key value) =
      .ok { settled with definitions := settled.definitions ++ [(key, value)] } := by
  have long : arguments.take ('-' :: '-' :: ("define=".toList ++ written key value)) =
      arguments.takeLong ("define=".toList ++ written key value) :=
    take_long optionsGoOn (List.cons_ne_nil _ _)
  rw [takeLong_written name_eq, settles.takeAttached_define hygienic] at long
  exact long

theorem take_defineWord (form : Form) :
    arguments.take form.defineWord = .ok { settled with pending := .definition none } := by
  cases form with
  | letter =>
      change arguments.take ['-', 'D'] = _
      rw [take_letters optionsGoOn (by decide), takeLetters_define name_eq, settles.takeFlag_define]
  | full =>
      change arguments.take ('-' :: '-' :: "define".toList) = _
      rw [take_long optionsGoOn (by decide), takeLong_define name_eq, settles.takeFlag_define]

omit name_eq in
theorem take_path (unset : settled.path = none) {text : Text} (plain : text.head? ≠ some '-') :
    arguments.take text = .ok { settled with pending := .path text } := by
  have no_path : arguments.hasPath = false := by rw [settles.hasPath_eq, unset]; rfl
  rw [take_plain optionsGoOn plain, if_neg settles.complete, takePath, no_path,
    if_neg (by decide), settles.settle_eq]
  rfl

end Take

theorem settle_definition (nothing : settled.pending = .none) {key : Text}
    (hygienic : key.IsHygienic) (value : Text) :
    settle { settled with pending := .definition (some (written key value)) } =
      .ok { settled with definitions := settled.definitions ++ [(key, value)] } := by
  cases settled
  cases nothing
  exact define_written hygienic _ value

theorem settle_path (nothing : settled.pending = .none) {text : Text} (nonempty : text ≠ []) :
    settle { settled with pending := .path text } = .ok { settled with path := some text } := by
  obtain ⟨first, rest, rfl⟩ := List.exists_cons_of_ne_nil nonempty
  cases settled
  cases nothing
  rfl

theorem foldlM_take_single {word : Text} {after : Arguments}
    (taken : arguments.take word = .ok after) : [word].foldlM take arguments = .ok after := by
  rw [List.foldlM_cons, taken]
  rfl

/-- The words of a part add the part to what has been read. -/
theorem foldlM_take_words {part : Part} {parts : List Part} (settles : arguments.SettlesTo settled)
    (valid : part.Valid) (room : settled.HasRoom (part :: parts)) :
    ∃ after, part.words.foldlM take arguments = .ok after ∧ after.SettlesTo (settled.add part) := by
  obtain ⟨name, named, json_named⟩ := room.name
  have goes_on : arguments.optionsEnded = false := settles.optionsEnded_eq.trans room.optionsGoOn
  have name_eq : arguments.name = some name := settles.name_eq.trans named
  have added : (settled.add part).SettlesTo (settled.add part) :=
    settlesTo_self ((pending_add settled part).trans settles.pending_settled)
  cases part with
  | verbose form =>
      have taken := take_verboseWord settles goes_on name_eq (room.verbose_unset rfl) form
      exact ⟨_, foldlM_take_single taken, added⟩
  | json =>
      have tokens : name = .tokens := json_named.resolve_right (by simp [Part.asksJson])
      have taken := take_json settles goes_on name_eq tokens (room.json_unset rfl)
      exact ⟨_, foldlM_take_single taken, added⟩
  | attached clustered setOff key value =>
      refine ⟨_, foldlM_take_single ?_, added⟩
      cases clustered with
      | false =>
          rw [add, Bool.or_false]
          exact take_attached settles goes_on name_eq valid setOff value
      | true =>
          rw [add, Bool.or_true]
          exact take_clustered settles goes_on name_eq (room.verbose_unset rfl) valid setOff value
  | assigned key value =>
      exact ⟨_, foldlM_take_single (take_assigned settles goes_on name_eq valid value), added⟩
  | apart form key value =>
      obtain ⟨hygienic, plain⟩ := valid
      have plain_word : (written key value).head? ≠ some '-' := by
        rw [written, List.head?_append_of_ne_nil _ hygienic.ne_nil]
        exact plain
      -- the option waits for the next word, which is looked at with the word behind it
      let waiting : Arguments := { settled with pending := .definition none }
      have value_taken : waiting.take (written key value) =
          .ok { settled with pending := .definition (some (written key value)) } := by
        have waiting_goes_on : waiting.optionsEnded = false := room.optionsGoOn
        rw [take_plain waiting_goes_on plain_word, if_pos rfl]
      refine ⟨_, ?_, settlesTo_of_settle (settle_definition settles.pending_settled hygienic value)⟩
      rw [Part.words, List.foldlM_cons, take_defineWord settles goes_on name_eq]
      exact foldlM_take_single value_taken
  | path text =>
      obtain ⟨nonempty, plain⟩ := valid
      have taken := take_path settles goes_on (room.path_unset rfl) plain
      exact ⟨_, foldlM_take_single taken,
        settlesTo_of_settle (settle_path settles.pending_settled nonempty)⟩

/-- The words of all parts add the parts one by one. -/
theorem foldlM_take_parts {parts : List Part} (settles : arguments.SettlesTo settled)
    (valid : ∀ part ∈ parts, part.Valid) (room : settled.HasRoom parts) :
    ∃ after, (parts.flatMap Part.words).foldlM take arguments = .ok after ∧
      after.SettlesTo (parts.foldl add settled) := by
  induction parts generalizing arguments settled with
  | nil => exact ⟨arguments, rfl, settles⟩
  | cons part parts ih =>
      obtain ⟨part_valid, parts_valid⟩ := List.forall_mem_cons.mp valid
      obtain ⟨between, first, between_settles⟩ := foldlM_take_words settles part_valid room
      obtain ⟨after, later, after_settles⟩ := ih between_settles parts_valid room.add
      refine ⟨after, ?_, after_settles⟩
      rw [List.flatMap_cons, List.foldlM_append, first]
      exact later

/-! ## What all parts say -/

section Fold

variable (arguments) (parts : List Part)

theorem verbose_foldl_add : (parts.foldl add arguments).verbose =
    (arguments.verbose || parts.any Part.asksVerbose) := by
  induction parts generalizing arguments with
  | nil => simp
  | cons part parts ih =>
      rw [List.foldl_cons, ih, verbose_add, List.any_cons, Bool.or_assoc]

theorem json_foldl_add : (parts.foldl add arguments).json =
    (arguments.json || parts.any Part.asksJson) := by
  induction parts generalizing arguments with
  | nil => simp
  | cons part parts ih => rw [List.foldl_cons, ih, json_add, List.any_cons, Bool.or_assoc]

theorem definitions_foldl_add : (parts.foldl add arguments).definitions =
    arguments.definitions ++ parts.filterMap Part.definition? := by
  induction parts generalizing arguments with
  | nil => simp
  | cons part parts ih =>
      rw [List.foldl_cons, ih, definitions_add, List.append_assoc, List.filterMap_cons]
      cases part.definition? <;> rfl

/-- The last path stays. -/
theorem path_foldl_add : (parts.foldl add arguments).path =
    (parts.filterMap Part.path?).foldl (fun _ text => some text) arguments.path := by
  induction parts generalizing arguments with
  | nil => rfl
  | cons part parts ih =>
      rw [List.foldl_cons, ih, path_add, List.filterMap_cons]
      cases part.path? <;> rfl

end Fold

end Arguments

/-! ## Command lines -/

theorem readFrom_name {arguments : Arguments} (goes_on : arguments.optionsEnded = false)
    (name : Name) (words : List Text) :
    readFrom arguments (name.word :: words) = (do
      let behind ← words.foldlM Arguments.take (.start (some name))
      let command ← behind.finish name
      .ok ⟨arguments.verbose || behind.verbose, command⟩) := by
  cases name <;> rw [readFrom, goes_on] <;> rfl

theorem readFrom_verboseWord (form : Form) (words : List Text) :
    readFrom (.start none) (form.verboseWord :: words) =
      readFrom { Arguments.start none with verbose := true } words := by
  cases form <;> rw [readFrom.eq_def] <;> rfl

theorem any_of_countP {flag : Bool} {asks : Part → Bool} {parts : List Part}
    (once : parts.countP asks = flag.toNat) : parts.any asks = flag := by
  cases flag with
  | false => simpa [List.countP_eq_zero] using once
  | true =>
      obtain ⟨part, member, asked⟩ := List.countP_pos_iff.mp (by rw [once]; decide)
      exact List.any_eq_true.mpr ⟨part, member, asked⟩

namespace Spelling

variable {spelling : Spelling} {invocation : Invocation}

/-- What the parts say, settled. -/
def settled (spelling : Spelling) : Arguments :=
  spelling.parts.foldl Arguments.add (.start (some spelling.name))

theorem Spells.finish (spells : spelling.Spells invocation) {after : Arguments}
    (settles : after.SettlesTo spelling.settled) :
    after.finish spelling.name = .ok invocation.command := by
  have path_eq : spelling.settled.path =
      spelling.paths.foldl (fun _ text => some text) none :=
    Arguments.path_foldl_add _ spelling.parts
  have definitions_eq : spelling.settled.definitions = invocation.command.definitions :=
    (Arguments.definitions_foldl_add _ spelling.parts).trans spells.definitions
  have json_eq : spelling.settled.json = invocation.command.json :=
    (Arguments.json_foldl_add _ spelling.parts).trans (any_of_countP spells.json)
  simp only [Arguments.finish, settles.settle_eq, bind, Except.bind, path_eq, definitions_eq,
    json_eq, spells.name]
  rcases spells.paths with paths_eq | ⟨paths_eq, is_check, default_path⟩
  · rw [paths_eq]
    cases invocation.command <;> rfl
  · rw [paths_eq]
    cases command_eq : invocation.command with
    | tokens path definitions json =>
        rw [command_eq] at is_check
        cases is_check
    | check path definitions =>
        rw [command_eq] at default_path
        cases default_path
        rfl

theorem Spells.hasRoom (spells : spelling.Spells invocation) :
    (Arguments.start (some spelling.name)).HasRoom spelling.parts := by
  have json_named : spelling.name = .tokens ∨ spelling.jsonCount = 0 := by
    rw [spells.name, spells.json]
    cases invocation.command with
    | tokens path definitions json => exact .inl rfl
    | check path definitions => exact .inr rfl
  have verbose_once : spelling.verboseCount ≤ 1 := spells.verbose.trans_le (Bool.toNat_le _)
  have parts_once := (Nat.le_add_left _ _).trans verbose_once
  have json_once : spelling.jsonCount ≤ 1 := spells.json.trans_le (Bool.toNat_le _)
  have path_once : spelling.paths.length ≤ 1 := by
    rcases spells.paths with paths_eq | ⟨paths_eq, -⟩ <;> simp [paths_eq]
  exact ⟨⟨_, rfl, json_named⟩, rfl, (Nat.zero_add _).trans_le parts_once,
    (Nat.zero_add _).trans_le json_once, (Nat.zero_add _).trans_le path_once⟩

theorem Spells.verbose_eq (spells : spelling.Spells invocation) :
    (spelling.front.isSome || spelling.settled.verbose) = invocation.verbose := by
  have settled_eq : spelling.settled.verbose = spelling.parts.any Part.asksVerbose :=
    Arguments.verbose_foldl_add _ spelling.parts
  have once := spells.verbose
  rw [verboseCount] at once
  cases front_eq : spelling.front with
  | none =>
      rw [front_eq, Option.toList_none, List.length_nil, Nat.zero_add] at once
      exact settled_eq.trans (any_of_countP once)
  | some form =>
      rw [front_eq, Option.toList_some, List.length_singleton] at once
      cases set : invocation.verbose with
      | true => rfl
      | false =>
          rw [set, Bool.toNat_false] at once
          omega

/-- From the name of the command on, what is left to read is what the parts say. -/
theorem Spells.readFrom_eq (spells : spelling.Spells invocation) {arguments : Arguments}
    (goes_on : arguments.optionsEnded = false)
    (verbose_eq : (arguments.verbose || spelling.settled.verbose) = invocation.verbose) :
    readFrom arguments (spelling.name.word :: spelling.parts.flatMap Part.words) =
      .ok invocation := by
  have nothing_read :
      (Arguments.start (some spelling.name)).SettlesTo (.start (some spelling.name)) :=
    Arguments.settlesTo_self rfl
  obtain ⟨behind, taken, settles⟩ :=
    Arguments.foldlM_take_parts nothing_read spells.valid spells.hasRoom
  have finished : behind.finish spelling.name = .ok invocation.command :=
    spells.finish settles
  rw [readFrom_name goes_on, taken]
  change (do let command ← behind.finish spelling.name; _) = _
  rw [finished, settles.verbose_eq]
  change Except.ok (Invocation.mk (arguments.verbose || spelling.settled.verbose) _) = _
  rw [verbose_eq]

end Spelling

/-- Any command line that spells an invocation is read as that invocation. -/
theorem reading_undoes_spelling {spelling : Spelling} {invocation : Invocation}
    (spells : spelling.Spells invocation) : read spelling.words = .ok invocation := by
  have verbose_eq := spells.verbose_eq
  rw [read, Spelling.words]
  cases front_eq : spelling.front with
  | none =>
      rw [front_eq] at verbose_eq
      exact spells.readFrom_eq rfl verbose_eq
  | some form =>
      rw [front_eq] at verbose_eq
      exact (readFrom_verboseWord form _).trans (spells.readFrom_eq rfl verbose_eq)

/-- Definitions in several forms, and flags in several places. -/
def mixedSpelling : Spelling where
  front := none
  name := .tokens
  parts := [.apart .letter "A".toList "-x=\"y\" ".toList, .path "tokens".toList,
    .attached true true "-B".toList [], .json, .assigned "A".toList "=".toList]

theorem reading_undoes_spelling_mixedSpelling :
    mixedSpelling.words = ["tokens", "-D", "A=-x=\"y\" ", "tokens", "-vD=-B=", "--json",
      "--define=A=="].map String.toList ∧
    mixedSpelling.Spells ⟨true, .tokens "tokens".toList
      [("A".toList, "-x=\"y\" ".toList), ("-B".toList, []), ("A".toList, "=".toList)] true⟩ ∧
    read mixedSpelling.words = .ok ⟨true, .tokens "tokens".toList
      [("A".toList, "-x=\"y\" ".toList), ("-B".toList, []), ("A".toList, "=".toList)] true⟩ := by
  have spells : mixedSpelling.Spells ⟨true, .tokens "tokens".toList
      [("A".toList, "-x=\"y\" ".toList), ("-B".toList, []), ("A".toList, "=".toList)] true⟩ :=
    ⟨by simp [mixedSpelling, Part.Valid]; decide, rfl, rfl, rfl, rfl, .inl rfl⟩
  exact ⟨by decide, spells, reading_undoes_spelling spells⟩

end Command
end MmlScan
