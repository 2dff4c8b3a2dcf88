import MmlScan.Command.Run
import MmlScan.Proofs.Termination
import MmlScan.Proofs.Walk
import Mathlib.Data.List.Forall2

/-!
# Every file is checked on its own

To check a path is to judge the source files that it leads to, one by one.  What is written for a
file depends on its path, its content and the definitions, and on nothing that happened to the files
before it.  A report is written as it is, so one that quotes a key over several lines breaks the
line of its file.
-/

namespace MmlScan

/-- The text of a file, if it can be read. -/
def FileSystem.text? (files : FileSystem Id) (path : Text) : Option Text :=
  ((files.read path).bind String.fromUTF8?).map String.toList

namespace Command

variable {files : FileSystem Id} {definitions : List (Text × Text)} {path : Text}

/-! ## One file -/

/-- The lists are the same in front of a position, and differ there. -/
def DifferFirstAt (left right : List Token) (position : Nat) : Prop :=
  left.take position = right.take position ∧ left[position]? ≠ right[position]?

/-- What is written for a file: the verdict in eight columns, the path, and what there is to say. -/
def verdictLine (verdict : String) (path detail : Text) : Text :=
  verdict.toList ++ ' ' :: path ++ " (".toList ++ detail ++ ")\n".toList

/-- A line for a file is right, and the file passes or does not.  Only the text of the file and the
definitions count, for a scanner that has seen nothing else. -/
inductive Judged (files : FileSystem Id) (definitions : List (Text × Text)) (path : Text) :
    Text → Bool → Prop
  | unreadable (no_text : files.text? path = none) :
      Judged files definitions path
        (verdictLine "error   " path ("I/O error: cannot read ".toList ++ path)) false
  | failed {text : Text} {report : Diagnostic} (text_eq : files.text? path = some text)
      (scan : (scannerOf definitions text).scanTwice.1 = .error report) :
      Judged files definitions path (verdictLine "error   " path report.text.toList) false
  | diverged {text : Text} {replay : Replay} {position : Nat}
      (text_eq : files.text? path = some text)
      (scan : (scannerOf definitions text).scanTwice.1 = .ok replay)
      (differ : DifferFirstAt replay.first replay.second position) :
      Judged files definitions path (verdictLine "diverged" path
        ("second pass differs at token ".toList ++ Token.numberText position)) false
  | ok {text : Text} {replay : Replay} (text_eq : files.text? path = some text)
      (scan : (scannerOf definitions text).scanTwice.1 = .ok replay)
      (same : replay.first = replay.second) :
      Judged files definitions path (verdictLine "ok      " path
        (Token.numberText replay.first.length ++ " tokens".toList)) true

/-- The verdict on a file. -/
def verdictOn (files : FileSystem Id) (definitions : List (Text × Text)) (path : Text) : Verdict :=
  judge path definitions (files.readText path)

theorem readText_of_text {text : Text} (text_eq : files.text? path = some text) :
    files.readText path = .ok text := by
  obtain ⟨string, decoded, rfl⟩ := Option.map_eq_some_iff.mp text_eq
  simp only [FileSystem.readText, bind, decoded]
  rfl

theorem readText_of_no_text (no_text : files.text? path = none) :
    files.readText path = .error (.cannotRead path) := by
  have undecoded := Option.map_eq_none_iff.mp no_text
  simp only [FileSystem.readText, bind, undecoded]
  rfl

theorem text_cannotRead (path : Text) :
    (Diagnostic.cannotRead path).text.toList = "I/O error: cannot read ".toList ++ path := by
  simp [Diagnostic.cannotRead, Diagnostic.plain, Diagnostic.text, DiagnosticKind.headline]

/-- The verdict on a file is right. -/
theorem judged (files : FileSystem Id) (definitions : List (Text × Text)) (path : Text) :
    Judged files definitions path ((verdictOn files definitions path).toLine path)
      (verdictOn files definitions path).isOk := by
  rw [verdictOn]
  cases text_eq : files.text? path with
  | none =>
      rw [readText_of_no_text text_eq]
      have line : Judged files definitions path _ false := .unreadable text_eq
      rw [← text_cannotRead] at line
      exact line
  | some text =>
      rw [readText_of_text text_eq]
      dsimp only [judge]
      cases scan : (scannerOf definitions text).scanTwice.1 with
      | error report =>
          -- the name of the source is not part of what is written
          have line := Judged.failed text_eq scan
          exact line
      | ok replay =>
          dsimp only [Verdict.ofReplay]
          cases divergence : replay.firstDivergence? with
          | none => exact .ok text_eq scan (Replay.divergence?_eq_none_iff.mp divergence)
          | some position =>
              exact .diverged text_eq scan (Replay.divergence?_eq_some_iff.mp divergence)

/-! ## All files -/

/-- Files are judged one by one, and the order of reading them makes no difference. -/
theorem execute_check (files : FileSystem Id) (definitions : List (Text × Text)) (path : Text) :
    execute files (.check path definitions) =
      match Place.sources path (files.look path) with
      | .error report => .failure report
      | .ok sources =>
          summary (sources.map fun source => (source, verdictOn files definitions source)) := by
  rw [execute]
  change (match Place.sources path (files.look path) with | .error _ => _ | .ok _ => _) = _
  cases Place.sources path (files.look path) with
  | error report => rfl
  | ok sources =>
      exact congrArg summary (List.mapM_pure (m := Id) (l := sources)
        (f := fun source => (source, verdictOn files definitions source)))

/-! ## Lines -/

/-- Nothing breaks the line for a file: neither its path nor the report on it has a newline. -/
def Unbroken (files : FileSystem Id) (definitions : List (Text × Text)) (path : Text) : Prop :=
  '\n' ∉ path ∧ ∀ text report, files.text? path = some text →
    (scannerOf definitions text).scanTwice.1 = .error report → '\n' ∉ report.text.toList

theorem count_verdictLine (verdict : String) (plain : '\n' ∉ verdict.toList) (path detail : Text) :
    1 ≤ (verdictLine verdict path detail).count '\n' ∧
      ((verdictLine verdict path detail).count '\n' = 1 ↔ '\n' ∉ path ∧ '\n' ∉ detail) := by
  have count_eq : (verdictLine verdict path detail).count '\n' =
      path.count '\n' + detail.count '\n' + 1 := by
    simp [verdictLine, List.count_eq_zero.mpr plain, Nat.add_assoc]
  rw [count_eq, ← List.count_eq_zero, ← List.count_eq_zero]
  omega

theorem newline_not_mem_numberText (number : Nat) : '\n' ∉ Token.numberText number := by
  intro found
  rw [Token.numberText, Nat.toString_eq_repr, Nat.repr_eq_ofList_toDigits,
    String.toList_ofList] at found
  exact absurd (Nat.isDigit_of_mem_toDigits (by decide) (by decide) found) (by decide)

/-- A file whose scan does not fail has a line that only its path can break. -/
theorem unbroken_iff_of_ok {text : Text} {replay : Replay} (text_eq : files.text? path = some text)
    (scan : (scannerOf definitions text).scanTwice.1 = .ok replay) :
    Unbroken files definitions path ↔ '\n' ∉ path := by
  refine and_iff_left fun other report other_eq failure => ?_
  obtain rfl := Option.some_inj.mp (text_eq.symm.trans other_eq)
  rw [scan] at failure
  cases failure

/-- A line is ended by a newline, and has no other exactly if nothing breaks it. -/
theorem Judged.count_line {line : Text} {passes : Bool}
    (judged : Judged files definitions path line passes) :
    1 ≤ line.count '\n' ∧ (line.count '\n' = 1 ↔ Unbroken files definitions path) := by
  cases judged with
  | unreadable no_text =>
      obtain ⟨ended, single_iff⟩ := count_verdictLine "error   " (by decide) path
        ("I/O error: cannot read ".toList ++ path)
      refine ⟨ended, single_iff.trans ?_⟩
      simp [Unbroken, no_text]
  | @failed text report text_eq scan =>
      obtain ⟨ended, single_iff⟩ := count_verdictLine "error   " (by decide) path report.text.toList
      refine ⟨ended, single_iff.trans (and_congr_right fun _ => ?_)⟩
      refine ⟨fun plain other found other_eq failure => ?_, fun all => all _ _ text_eq scan⟩
      obtain rfl := Option.some_inj.mp (text_eq.symm.trans other_eq)
      rw [scan] at failure
      cases failure
      exact plain
  | @diverged text replay position text_eq scan differ =>
      obtain ⟨ended, single_iff⟩ := count_verdictLine "diverged" (by decide) path
        ("second pass differs at token ".toList ++ Token.numberText position)
      refine ⟨ended, single_iff.trans ?_⟩
      rw [unbroken_iff_of_ok text_eq scan]
      simp [newline_not_mem_numberText]
  | @ok text replay text_eq scan same =>
      obtain ⟨ended, single_iff⟩ := count_verdictLine "ok      " (by decide) path
        (Token.numberText replay.first.length ++ " tokens".toList)
      refine ⟨ended, single_iff.trans ?_⟩
      rw [unbroken_iff_of_ok text_eq scan]
      simp [newline_not_mem_numberText]

/-- Texts that each end at least one line end one line each exactly if they have as many newlines as
there are texts. -/
theorem count_flatMap_iff {line : Text → Text} (ended : ∀ source, 1 ≤ (line source).count '\n')
    (sources : List Text) :
    sources.length ≤ (sources.flatMap line).count '\n' ∧
      ((sources.flatMap line).count '\n' = sources.length ↔
        ∀ source ∈ sources, (line source).count '\n' = 1) := by
  induction sources with
  | nil => simp
  | cons source sources ih =>
      have first := ended source
      rw [List.flatMap_cons, List.count_append, List.length_cons, List.forall_mem_cons, ← ih.2]
      omega

/-! ## All files of a path -/

/-- What the program leaves behind when it checks a path. -/
def outcomeOfCheck (files : FileSystem Id) (definitions : List (Text × Text)) (path : Text) :
    Outcome :=
  execute files (.check path definitions)

/-- The sources of a path are checked: each of them, in their order, and each on its own. -/
structure ChecksEach (files : FileSystem Id) (definitions : List (Text × Text)) (path : Text)
    (sources : List Text) : Prop where
  /-- If there are none, that is reported, and nothing is written. -/
  none_found (nothing : sources = []) :
    outcomeOfCheck files definitions path = ⟨[], [Place.noSources path], 1⟩ ∧
      (Place.noSources path).kind = .file
  /-- Otherwise what is written is one line for each file, and all is well exactly if every file
  passes. -/
  each_judged (some_found : sources ≠ []) : ∃ lines : List (Text × Bool),
    List.Forall₂ (fun source line => Judged files definitions source line.1 line.2) sources lines ∧
      (outcomeOfCheck files definitions path).output = lines.flatMap (·.1) ∧
      ((outcomeOfCheck files definitions path).exitCode = 0 ↔ ∀ line ∈ lines, line.2 = true)
  /-- There are as many newlines as files exactly if nothing breaks the line for any of them. -/
  unbroken_iff (some_found : sources ≠ []) :
    (outcomeOfCheck files definitions path).output.count '\n' = sources.length ↔
      ∀ source ∈ sources, Unbroken files definitions source

theorem checksEach_of_sources {sources : List Text}
    (sources_eq : Place.sources path (files.look path) =
      if sources = [] then .error (Place.noSources path) else .ok sources) :
    ChecksEach files definitions path sources where
  none_found nothing := by
    rw [if_pos nothing] at sources_eq
    rw [outcomeOfCheck, execute_check, sources_eq]
    exact ⟨rfl, rfl⟩
  each_judged some_found := by
    rw [if_neg some_found] at sources_eq
    refine ⟨sources.map fun source => ((verdictOn files definitions source).toLine source,
      (verdictOn files definitions source).isOk), ?_, ?_, ?_⟩
    · rw [List.forall₂_map_right_iff, List.forall₂_same]
      exact fun source _ => judged files definitions source
    · rw [outcomeOfCheck, execute_check, sources_eq]
      simp [summary, List.flatMap_map]
    · rw [outcomeOfCheck, execute_check, sources_eq]
      simp [summary]
  unbroken_iff some_found := by
    rw [if_neg some_found] at sources_eq
    have ended (source : Text) := (judged files definitions source).count_line
    have counted := (count_flatMap_iff (fun source => (ended source).1) sources).2
    rw [outcomeOfCheck, execute_check, sources_eq]
    simp only [summary, List.flatMap_map]
    rw [counted]
    exact forall₂_congr fun source _ => (ended source).2

/-- Whatever a path leads to, a file or a directory with its files listed in any order, all source
files there are checked, each on its own. -/
theorem check_judges_each {contents : Directory} (distinct : contents.Distinct)
    {listed : List (List Text)} (same_files : listed.Perm contents.files) (files : FileSystem Id)
    (definitions : List (Text × Text)) (path : Text) :
    (files.look path = .file → ChecksEach files definitions path [path]) ∧
      (files.look path = .directory listed → ∃ found, contents.Selects found ∧
        ChecksEach files definitions path (found.map (Place.below path))) := by
  constructor
  · intro leads
    exact checksEach_of_sources (by rw [leads]; rfl)
  · intro leads
    refine ⟨_, Directory.selects distinct, checksEach_of_sources ?_⟩
    rw [leads, Directory.sources_eq distinct same_files]
    cases contents.walk.filter Place.leadsToSource with
    | nil => rfl
    | cons names others => rfl

/-- A directory that holds source files and others, one of them hidden. -/
def mixedTree : Directory :=
  .add "d".toList (.directory (.add "x.MML".toList .file (.add "y.rs".toList .file .empty)))
    (.add ".txt".toList .file (.add "e.txt".toList .other (.add "a.txt".toList .file .empty)))

/-- The files of that directory, in another order. -/
def mixedListing : List (List Text) :=
  [["a.txt".toList], [".txt".toList], ["d".toList, "y.rs".toList], ["d".toList, "x.MML".toList]]

/-- Files of which only one can be read. -/
def mixedFiles : FileSystem Id where
  look path := if path = "src".toList then .directory mixedListing else .missing
  read path := if path = "src/a.txt".toList then some "A B".toUTF8 else none

theorem check_judges_each_mixedTree : mixedTree.Distinct ∧
    mixedListing.Perm mixedTree.files ∧ mixedFiles.look "src".toList = .directory mixedListing ∧
    ∃ found, mixedTree.Selects found ∧
      ChecksEach mixedFiles [] "src".toList (found.map (Place.below "src".toList)) := by
  have distinct : mixedTree.Distinct := by
    simp [mixedTree, Directory.Distinct, Entry.Distinct, Directory.names]
  have same_files : mixedListing.Perm mixedTree.files := by decide
  exact ⟨distinct, same_files, rfl,
    (check_judges_each distinct same_files mixedFiles [] "src".toList).2 rfl⟩

/-! ## A report over two lines -/

theorem text?_toUTF8 (look : Text → Place) (text : String) (path : Text) :
    FileSystem.text? ⟨look, fun _ => some text.toUTF8⟩ path = some text.toList := by
  have decoded : String.fromUTF8? text.toUTF8 = some text := by
    simp only [String.fromUTF8?, String.toUTF8_eq_toByteArray, dif_pos text.isValidUTF8]
    rfl
  rw [FileSystem.text?, Option.bind_some, decoded, Option.map_some]

/-- Only files that define a key over two lines, whose macro expands into itself. -/
def brokenKey : FileSystem Id :=
  ⟨fun _ => .file, fun _ => some "\"A\nB=A\nB\" A\nB".toUTF8⟩

/-- The report on such a file quotes the key. -/
theorem scan_brokenKey : ∃ report,
    (scannerOf [] "\"A\nB=A\nB\" A\nB".toList).scanTwice.1 = .error report ∧
      '\n' ∈ report.text.toList := by
  have scanned : (Scanner.scanWithin 2 [] (scannerOf [] "\"A\nB=A\nB\" A\nB".toList)).map
      (·.1.mapError (·.text.toList.contains '\n')) = some (.error true) := by decide +kernel
  obtain ⟨⟨answer, after⟩, ended, broken⟩ := Option.map_eq_some_iff.mp scanned
  cases answer with
  | ok tokens => cases broken
  | error report =>
      have quotes_key : report.text.toList.contains '\n' = true := Except.error.inj broken
      refine ⟨report, ?_, List.contains_iff_mem.mp quotes_key⟩
      rw [Scanner.scanTwice, Scanner.scanTokens, Scanner.scanFrom_of_scanWithin ended]

/-- What is written for a single file can be more than one line. -/
theorem check_may_break_line : ¬ ∀ files definitions path, files.look path = .file →
    (outcomeOfCheck files definitions path).output.count '\n' = 1 := by
  intro one_line
  have checks : ChecksEach brokenKey [] "a".toList ["a".toList] := checksEach_of_sources rfl
  have unbroken := (checks.unbroken_iff (List.cons_ne_nil _ _)).mp
    (one_line brokenKey [] "a".toList rfl) _ List.mem_cons_self
  obtain ⟨report, scan, broken⟩ := scan_brokenKey
  exact unbroken.2 _ report (text?_toUTF8 _ _ _) scan broken

end Command
end MmlScan
