import MmlScan.Proofs.Rewind
import MmlScan.Scanner.Pool

/-!
# Sharing goes unnoticed

Scanners of one pool take turns.  A turn asks a scanner for an operation; a scan takes many turns,
one for each round, and other scanners may have theirs in between.  No turn reads the cache of its
scanner more than once, so it can be taken as one step.

What the others leave in a cache makes no difference to a scanner: alike scanners give the same
answers and stay alike.  So each one has given the answers, and holds the state, that it would have
alone with a cache of its own.
-/

namespace MmlScan
namespace Scanner

/-! ## Answers -/

/-- What an operation answers. -/
inductive Answer where
  | nothing
  | flag (answer : Bool)
  | test (answer : Except Diagnostic Bool)
  | text (answer : Except Diagnostic (Option Text))
  | number (answer : Except Diagnostic (Option Int))
  | count (answer : Except MacroCycle Nat)
  | tokens (answer : Except Diagnostic (List Token))
  | replay (answer : Except Diagnostic Replay)

/-- The answer to an operation. -/
def Operation.answer : Operation → Scanner → Answer
  | .trim pattern ignoreCase, scanner => .text (scanner.trim pattern ignoreCase).1
  | .trimUntil pattern ignoreCase, scanner => .text (scanner.trimUntil pattern ignoreCase).1
  | .trimChar expected, scanner => .flag (scanner.trimChar expected).1
  | .readWord word, scanner => .test (scanner.readWord word).1
  | .readNumber kind, scanner => .number (scanner.readNumber kind).1
  | .readIdentifier, scanner => .text scanner.readIdentifier.1
  | .readString, scanner => .text scanner.readString.1
  | .readDirective, scanner => .test scanner.readDirective.1
  | .enter key replacement, scanner => .flag (scanner.enter? key replacement).isSome
  | .exit, scanner => .flag scanner.exit?.isSome
  | .expand, scanner => .count scanner.expand.1
  | .skip, scanner => .flag scanner.skip.1
  | .reachToken, scanner => .test scanner.reachToken.1
  | .scanTokens, scanner => .tokens scanner.scanTokens.1
  | .scanTwice, scanner => .replay scanner.scanTwice.1
  | .undo, _ | .reposition _, _ | .seek _, _ | .define _ _, _ | .resetToSource _, _ | .drain, _
  | .share _, _ => .nothing

/-- Operations and the answers to them, one after the other. -/
def Operation.answers : List Operation → Scanner → List (Operation × Answer)
  | [], _ => []
  | operation :: operations, scanner =>
      (operation, operation.answer scanner) :: answers operations (operation.run scanner)

theorem Operation.answers_append (earlier later : List Operation) (scanner : Scanner) :
    answers (earlier ++ later) scanner =
      answers earlier scanner ++ answers later (runAll earlier scanner) := by
  induction earlier generalizing scanner with
  | nil => rfl
  | cons operation earlier ih => exact congrArg (_ :: ·) (ih (operation.run scanner))

/-! ## Alike scanners answer alike -/

section Alike

variable {left right : Scanner}

theorem readNumber_alike (alike : left.Alike right) (kind : NumberKind) :
    (left.readNumber kind).1 = (right.readNumber kind).1 ∧
      (left.readNumber kind).2.Alike (right.readNumber kind).2 := by
  have trims := trim_alike alike kind.pattern false
  rw [readNumber, readNumber]
  rcases left_trim : left.trim kind.pattern false with ⟨answer, left_after⟩
  rcases right_trim : right.trim kind.pattern false with ⟨other, right_after⟩
  rw [left_trim, right_trim] at trims
  have after_alike : left_after.Alike right_after := trims.2
  cases (trims.1 : answer = other)
  rcases answer with diagnostic | _ | digits
  · exact ⟨rfl, after_alike⟩
  · exact ⟨rfl, after_alike⟩
  · have reports (cause : String) :
        left_after.outOfRange digits cause = right_after.outOfRange digits cause := by
      rw [after_alike.eq_sharing]
      rfl
    dsimp only
    simp only [reports]
    split
    · exact ⟨rfl, after_alike⟩
    · split <;> exact ⟨rfl, after_alike⟩

theorem scanTwice_alike (alike : left.Alike right) :
    left.scanTwice.1 = right.scanTwice.1 ∧ left.scanTwice.2.Alike right.scanTwice.2 := by
  have firsts : left.scanTokens.1 = right.scanTokens.1 ∧
      left.scanTokens.2.Alike right.scanTokens.2 := scanFrom_alike [] left alike
  rw [scanTwice, scanTwice]
  rcases left_first : left.scanTokens with ⟨answer, left_between⟩
  rcases right_first : right.scanTokens with ⟨other, right_between⟩
  rw [left_first, right_first] at firsts
  obtain ⟨rfl, between_alike⟩ := firsts
  cases answer with
  | error diagnostic => exact ⟨rfl, between_alike⟩
  | ok first =>
      have restarted := resetToSource_alike 0 between_alike.source_eq between_alike.macros_eq
      have seconds : (left_between.resetToSource 0).scanTokens.1 =
            (right_between.resetToSource 0).scanTokens.1 ∧
          (left_between.resetToSource 0).scanTokens.2.Alike
            (right_between.resetToSource 0).scanTokens.2 := scanFrom_alike [] _ restarted
      dsimp only
      rcases left_second : (left_between.resetToSource 0).scanTokens with ⟨answer, left_after⟩
      rcases right_second : (right_between.resetToSource 0).scanTokens with ⟨other, right_after⟩
      rw [left_second, right_second] at seconds
      obtain ⟨rfl, after_alike⟩ := seconds
      cases answer with
      | error diagnostic => exact ⟨rfl, after_alike⟩
      | ok second => exact ⟨rfl, after_alike⟩

theorem Operation.alike (operation : Operation) (alike : left.Alike right) :
    operation.answer left = operation.answer right ∧
      (operation.run left).Alike (operation.run right) := by
  cases operation with
  | trim pattern ignoreCase =>
      exact (trim_alike alike pattern ignoreCase).imp_left (congrArg Answer.text)
  | trimUntil pattern ignoreCase =>
      exact (trimUntil_alike alike pattern ignoreCase).imp_left (congrArg Answer.text)
  | readWord word =>
      refine (trim_alike alike (Pattern.escape word) true).imp_left fun same => ?_
      exact congrArg (fun taken => Answer.test (taken.map (·.isSome))) same
  | readNumber kind => exact (readNumber_alike alike kind).imp_left (congrArg Answer.number)
  | readIdentifier =>
      exact (trim_alike alike identifierPattern false).imp_left (congrArg Answer.text)
  | scanTokens => exact (scanFrom_alike [] left alike).imp_left (congrArg Answer.tokens)
  | scanTwice => exact (scanTwice_alike alike).imp_left (congrArg Answer.replay)
  | resetToSource offset => exact ⟨rfl, resetToSource_alike offset alike.source_eq alike.macros_eq⟩
  | drain =>
      refine ⟨rfl, ?_⟩
      rw [run, run, Scanner.drain, Scanner.drain, alike.source_eq]
      exact resetToSource_alike _ alike.source_eq alike.macros_eq
  | share => exact ⟨rfl, alike.source_eq, alike.view_eq, alike.macros_eq, alike.expansions_eq⟩
  | readString =>
      rw [alike.eq_sharing, answer, answer, run, run, readString_sharing]
      exact ⟨rfl, alike_sharing _ _⟩
  | readDirective =>
      rw [alike.eq_sharing, answer, answer, run, run, readDirective_sharing]
      exact ⟨rfl, alike_sharing _ _⟩
  | expand =>
      have expanded := (transparent_sharing right.patterns).expand left
      rw [alike.eq_sharing, answer, answer, run, run, expanded]
      exact ⟨rfl, alike_sharing _ _⟩
  | skip =>
      have skipped := (transparent_sharing right.patterns).skip left
      rw [alike.eq_sharing, answer, answer, run, run, skipped]
      exact ⟨rfl, alike_sharing _ _⟩
  | reachToken =>
      rw [alike.eq_sharing, answer, answer, run, run, reachToken_sharing]
      exact ⟨rfl, alike_sharing _ _⟩
  | enter key replacement =>
      rw [alike.eq_sharing, answer, answer, run, run, enter_sharing]
      cases left.enter? key replacement with
      | none => exact ⟨rfl, alike_sharing _ _⟩
      | some inner => exact ⟨rfl, alike_sharing _ _⟩
  | exit =>
      rw [alike.eq_sharing, answer, answer, run, run, exit_sharing]
      cases left.exit? with
      | none => exact ⟨rfl, alike_sharing _ _⟩
      | some outer => exact ⟨rfl, alike_sharing _ _⟩
  | trimChar | undo | reposition | seek | define =>
      rw [alike.eq_sharing]
      exact ⟨rfl, rfl, rfl, rfl, rfl⟩

end Alike

/-! ## Turns -/

/-- What a scanner is in the middle of, with the tokens taken so far, of which the latest is
first. -/
inductive Task where
  | scan (taken : List Token)
  | firstPass (taken : List Token)
  | secondPass (first taken : List Token)

/-- Whether an operation has been answered. -/
inductive Progress where
  | busy (task : Task)
  | done (answer : Answer)

namespace Task

/-- The operation that the task is part of. -/
def operation : Task → Operation
  | .scan _ => .scanTokens
  | .firstPass _ | .secondPass _ _ => .scanTwice

/-- One round of the task. -/
def advance (task : Task) (scanner : Scanner) : Progress × Scanner :=
  match scanner.round, task with
  | .advanced token after, .scan taken => (.busy (.scan (token.toList ++ taken)), after)
  | .advanced token after, .firstPass taken =>
      (.busy (.firstPass (token.toList ++ taken)), after)
  | .advanced token after, .secondPass first taken =>
      (.busy (.secondPass first (token.toList ++ taken)), after)
  | .finished after, .scan taken => (.done (.tokens (.ok taken.reverse)), after)
  | .finished between, .firstPass taken =>
      (.busy (.secondPass taken.reverse []), between.resetToSource 0)
  | .finished after, .secondPass first taken =>
      (.done (.replay (.ok ⟨first, taken.reverse⟩)), after)
  | .failed diagnostic after, .scan _ => (.done (.tokens (.error diagnostic)), after)
  | .failed diagnostic after, .firstPass _ | .failed diagnostic after, .secondPass _ _ =>
      (.done (.replay (.error diagnostic)), after)

/-- All rounds of the second of two passes. -/
def finishSecond (first taken : List Token) (scanner : Scanner) : Answer × Scanner :=
  let (answer, after) := scanFrom taken scanner
  (.replay (answer.map (⟨first, ·⟩)), after)

/-- All rounds of the task. -/
def finish (task : Task) (scanner : Scanner) : Answer × Scanner :=
  match task with
  | .scan taken =>
      let (answer, after) := scanFrom taken scanner
      (.tokens answer, after)
  | .firstPass taken =>
      match scanFrom taken scanner with
      | (.error diagnostic, after) => (.replay (.error diagnostic), after)
      | (.ok first, between) => finishSecond first [] (between.resetToSource 0)
  | .secondPass first taken => finishSecond first taken scanner

end Task

/-- Where the operation ends. -/
def Progress.finish : Progress → Scanner → Answer × Scanner
  | .busy task, scanner => task.finish scanner
  | .done answer, scanner => (answer, scanner)

/-- A round of a task does not change where it ends. -/
theorem Task.finish_advance (task : Task) (scanner : Scanner) :
    (task.advance scanner).1.finish (task.advance scanner).2 = task.finish scanner := by
  rw [advance.eq_def]
  cases task with
  | scan taken =>
      rw [finish, scanFrom_eq taken scanner]
      cases scanner.round <;> rfl
  | firstPass taken =>
      rw [finish, scanFrom_eq taken scanner]
      cases scanner.round <;> rfl
  | secondPass first taken =>
      rw [finish, finishSecond, scanFrom_eq taken scanner]
      cases scanner.round <;> rfl

/-- The first turn of an operation: a scan is begun, and anything else is done at once. -/
def Operation.begin (operation : Operation) (scanner : Scanner) : Progress × Scanner :=
  match operation with
  | .scanTokens => (.busy (.scan []), scanner)
  | .scanTwice => (.busy (.firstPass []), scanner)
  | operation => (.done (operation.answer scanner), operation.run scanner)

theorem Operation.finish_begin (operation : Operation) (scanner : Scanner) :
    (operation.begin scanner).1.finish (operation.begin scanner).2 =
      (operation.answer scanner, operation.run scanner) := by
  cases operation with
  | scanTwice =>
      change Task.finish (.firstPass []) scanner =
        (.replay scanner.scanTwice.1, scanner.scanTwice.2)
      rw [Task.finish, Scanner.scanTwice, Scanner.scanTokens]
      rcases scanFrom [] scanner with ⟨answer, between⟩
      cases answer with
      | error diagnostic => rfl
      | ok first =>
          dsimp only
          rw [Task.finishSecond, ← Scanner.scanTokens]
          rcases (between.resetToSource 0).scanTokens with ⟨answer, after⟩
          cases answer <;> rfl
  | _ => rfl

theorem Task.finishSecond_alike {left right : Scanner} (first taken : List Token)
    (alike : left.Alike right) :
    (finishSecond first taken left).1 = (finishSecond first taken right).1 ∧
      (finishSecond first taken left).2.Alike (finishSecond first taken right).2 := by
  refine (scanFrom_alike taken left alike).imp_left fun same => ?_
  exact congrArg (fun answer => Answer.replay (answer.map (⟨first, ·⟩))) same

theorem Task.finish_alike {left right : Scanner} (task : Task) (alike : left.Alike right) :
    (task.finish left).1 = (task.finish right).1 ∧
      (task.finish left).2.Alike (task.finish right).2 := by
  cases task with
  | scan taken => exact (scanFrom_alike taken left alike).imp_left (congrArg Answer.tokens)
  | secondPass first taken => exact finishSecond_alike first taken alike
  | firstPass taken =>
      have firsts := scanFrom_alike taken left alike
      rw [finish, finish]
      rcases left_first : scanFrom taken left with ⟨answer, left_between⟩
      rcases right_first : scanFrom taken right with ⟨other, right_between⟩
      rw [left_first, right_first] at firsts
      have between_alike : left_between.Alike right_between := firsts.2
      cases (firsts.1 : answer = other)
      cases answer with
      | error diagnostic => exact ⟨rfl, between_alike⟩
      | ok first =>
          have restarted := resetToSource_alike 0 between_alike.source_eq between_alike.macros_eq
          exact finishSecond_alike first [] restarted

/-! ## Sessions -/

/-- A scanner at work: its text, the operations it was asked for with the answers it gave, and what
it is in the middle of. -/
structure Worker where
  text : Text
  record : List (Operation × Answer)
  task : Option Task

/-- A scanner that has not been asked for anything. -/
def Worker.ofText (text : Text) : Worker :=
  ⟨text, [], none⟩

/-- The worker after a turn of an operation. -/
def Worker.note (worker : Worker) (operation : Operation) : Progress → Worker
  | .busy task => { worker with task := some task }
  | .done answer => { worker with record := worker.record ++ [(operation, answer)], task := none }

/-- A pool and what its scanners have done, in their order. -/
structure Session where
  pool : ScannerPool
  workers : List Worker

/-- What can happen next in a session. -/
inductive Turn where
  /-- A scanner is made, with a cache of its own. -/
  | create (text : Text)
  /-- A scanner is made that shares the cache of another one. -/
  | join (index : Nat) (text : Text)
  /-- A scanner is copied, and the copy shares its cache. -/
  | copy (index : Nat)
  /-- A scanner is asked for an operation. -/
  | ask (index : Nat) (operation : Operation)
  /-- A scanner goes on with the scan it is in the middle of. -/
  | proceed (index : Nat)

namespace Session

/-- Nothing has happened. -/
def empty : Session :=
  ⟨⟨[], []⟩, []⟩

/-- A worker has one turn of an operation. -/
def perform (session : Session) (index : Nat) (worker : Worker) (operation : Operation)
    (turn : Scanner → Progress × Scanner) : Session :=
  match session.pool.run? index turn with
  | none => session
  | some (progress, pool) => ⟨pool, session.workers.set index (worker.note operation progress)⟩

/-- The session after a turn.  A scanner that is in the middle of a scan cannot be copied or asked
for something else. -/
def take (session : Session) : Turn → Session
  | .create text => ⟨session.pool.add (.ofText text), session.workers ++ [.ofText text]⟩
  | .join index text =>
      match session.workers[index]? with
      | none => session
      | some _ => ⟨session.pool.addSharing index text, session.workers ++ [.ofText text]⟩
  | .copy index =>
      match session.workers[index]? with
      | some ⟨text, record, none⟩ =>
          ⟨session.pool.addCopy index, session.workers ++ [⟨text, record, none⟩]⟩
      | _ => session
  | .ask index operation =>
      match session.workers[index]? with
      | some ⟨text, record, none⟩ =>
          session.perform index ⟨text, record, none⟩ operation operation.begin
      | _ => session
  | .proceed index =>
      match session.workers[index]? with
      | some ⟨text, record, some task⟩ =>
          session.perform index ⟨text, record, some task⟩ task.operation task.advance
      | _ => session

/-- The session after turns, one after the other. -/
def takeAll (turns : List Turn) (session : Session) : Session :=
  turns.foldl take session

end Session

/-- The scanner that a worker would be, alone and with a cache of its own. -/
def Worker.alone (worker : Worker) : Scanner :=
  Operation.runAll (worker.record.map (·.1)) (.ofText worker.text)

/-- A worker has answered as it would have alone, and its scanner is, or will be when it has
finished what it is in the middle of, as it would be alone. -/
structure Worker.Undisturbed (worker : Worker) (scanner : Scanner) : Prop where
  record_eq : worker.record = Operation.answers (worker.record.map (·.1)) (.ofText worker.text)
  idle : worker.task = none → worker.alone.Alike scanner
  busy : ∀ task ∈ worker.task,
    task.operation.answer worker.alone = (task.finish scanner).1 ∧
      (task.operation.run worker.alone).Alike (task.finish scanner).2

namespace Worker.Undisturbed

variable {worker : Worker} {scanner other : Scanner} {operation : Operation} {task : Task}

theorem ofText (text : Text) (patterns : PatternCache) :
    (Worker.ofText text).Undisturbed (withPatterns text patterns) where
  record_eq := rfl
  idle _ := ⟨rfl, rfl, rfl, rfl⟩
  busy task member := by cases member

/-- What the others leave in the cache makes no difference. -/
theorem alike (undisturbed : worker.Undisturbed scanner) (alike : scanner.Alike other) :
    worker.Undisturbed other where
  record_eq := undisturbed.record_eq
  idle idle := (undisturbed.idle idle).trans alike
  busy task member := by
    obtain ⟨answer_eq, ends_alike⟩ := undisturbed.busy task member
    obtain ⟨finish_eq, finish_alike⟩ := task.finish_alike alike
    exact ⟨answer_eq.trans finish_eq, ends_alike.trans finish_alike⟩

/-- A turn that leads to where the operation would end alone leaves a worker undisturbed. -/
theorem note (undisturbed : worker.Undisturbed scanner) {progress : Progress} {after : Scanner}
    (same_operation : ∀ task, progress = .busy task → task.operation = operation)
    (leads : operation.answer worker.alone = (progress.finish after).1 ∧
      (operation.run worker.alone).Alike (progress.finish after).2) :
    (worker.note operation progress).Undisturbed after := by
  cases progress with
  | busy task =>
      obtain rfl := same_operation task rfl
      refine ⟨undisturbed.record_eq, fun idle => ?_, fun current member => ?_⟩
      · cases idle
      · cases member
        exact leads
  | done answer =>
      have operations_eq : (worker.note operation (.done answer)).record.map (·.1) =
          worker.record.map (·.1) ++ [operation] := by simp [Worker.note]
      refine ⟨?_, fun _ => ?_, fun current member => ?_⟩
      · rw [operations_eq, Operation.answers_append]
        change worker.record ++ [(operation, answer)] =
          Operation.answers (worker.record.map (·.1)) (.ofText worker.text) ++
            [(operation, operation.answer worker.alone)]
        rw [leads.1, ← undisturbed.record_eq]
        rfl
      · rw [Worker.alone, operations_eq, Operation.runAll_append]
        exact leads.2
      · cases member

theorem begin (undisturbed : worker.Undisturbed scanner) (idle : worker.task = none)
    (operation : Operation) :
    (worker.note operation (operation.begin scanner).1).Undisturbed
      (operation.begin scanner).2 := by
  refine undisturbed.note (fun task begun => ?_) ?_
  · cases operation <;> cases begun <;> rfl
  · rw [operation.finish_begin]
    exact operation.alike (undisturbed.idle idle)

theorem advance (undisturbed : worker.Undisturbed scanner) (busy : worker.task = some task) :
    (worker.note task.operation (task.advance scanner).1).Undisturbed (task.advance scanner).2 := by
  refine undisturbed.note (fun next going => ?_) ?_
  · rw [Task.advance.eq_def] at going
    cases task <;> cases round_eq : scanner.round <;> rw [round_eq] at going <;> cases going <;> rfl
  · rw [task.finish_advance]
    exact undisturbed.busy task busy

end Worker.Undisturbed

/-! ## Pools -/

/-- A scanner of a pool differs from the member in its cache only. -/
theorem get?_alike {pool : ScannerPool} {index : Nat} {found : PooledScanner}
    (got : pool.get? index = some found) :
    ∃ member, pool.members[index]? = some member ∧ member.scanner.Alike found.scanner := by
  rw [ScannerPool.get?, Option.map_eq_some_iff] at got
  obtain ⟨member, present, rfl⟩ := got
  exact ⟨member, present, alike_sharing _ _⟩

/-- An operation on one scanner of a pool leaves the other members as they are. -/
theorem members_of_run? {α : Type} {pool after : ScannerPool} {index : Nat}
    {operation : Scanner → α × Scanner} {result : α}
    (ran : pool.run? index operation = some (result, after)) :
    ∃ found, pool.get? index = some found ∧ result = (operation found.scanner).1 ∧
      after.members = pool.members.set index ⟨found.store, (operation found.scanner).2⟩ := by
  rw [ScannerPool.run?, Option.map_eq_some_iff] at ran
  obtain ⟨found, got, same⟩ := ran
  cases same
  exact ⟨found, got, rfl, rfl⟩

/-! ## Turns disturb nobody -/

/-- No worker of the session has been disturbed. -/
structure Session.Undisturbed (session : Session) : Prop where
  length_eq : session.workers.length = session.pool.members.length
  each : ∀ {index : Nat} {worker : Worker} {member : PooledScanner},
    session.workers[index]? = some worker → session.pool.members[index]? = some member →
      worker.Undisturbed member.scanner

namespace Session.Undisturbed

variable {session : Session}

/-- A worker of an undisturbed session is undisturbed with what its cache holds by now. -/
theorem of_get? (undisturbed : session.Undisturbed) {index : Nat} {worker : Worker}
    {found : PooledScanner} (at_work : session.workers[index]? = some worker)
    (got : session.pool.get? index = some found) : worker.Undisturbed found.scanner := by
  obtain ⟨member, present, alike⟩ := get?_alike got
  exact (undisturbed.each at_work present).alike alike

/-- A newcomer that is undisturbed leaves a session undisturbed. -/
theorem append (undisturbed : session.Undisturbed) {worker : Worker} {member : PooledScanner}
    (newcomer : worker.Undisturbed member.scanner) (stores : List PatternCache) :
    Session.Undisturbed
      ⟨⟨stores, session.pool.members ++ [member]⟩, session.workers ++ [worker]⟩ where
  length_eq := by simp [undisturbed.length_eq]
  each {index current present} at_work member_at := by
    -- the newcomer stands behind all others, in both lists
    rcases Nat.lt_or_ge index session.workers.length with older | newer
    · rw [List.getElem?_append_left older] at at_work
      rw [List.getElem?_append_left (undisturbed.length_eq ▸ older)] at member_at
      exact undisturbed.each at_work member_at
    · rw [List.getElem?_append_right newer, List.getElem?_singleton] at at_work
      rw [List.getElem?_append_right (undisturbed.length_eq ▸ newer),
        List.getElem?_singleton] at member_at
      split at at_work
      · cases at_work
        split at member_at
        · cases member_at
          exact newcomer
        · cases member_at
      · cases at_work

/-- A turn of a worker that leaves it undisturbed leaves the session undisturbed. -/
theorem perform (undisturbed : session.Undisturbed) {index : Nat} {worker : Worker}
    (at_work : session.workers[index]? = some worker) (operation : Operation)
    (turn : Scanner → Progress × Scanner)
    (keeps : ∀ scanner, worker.Undisturbed scanner →
      (worker.note operation (turn scanner).1).Undisturbed (turn scanner).2) :
    (session.perform index worker operation turn).Undisturbed := by
  rw [Session.perform]
  split
  · exact undisturbed
  · next progress pool ran =>
    obtain ⟨found, got, rfl, members_eq⟩ := members_of_run? ran
    constructor
    · rw [members_eq, List.length_set, List.length_set]
      exact undisturbed.length_eq
    · intro other current present current_at member_at
      rw [members_eq] at member_at
      rw [List.getElem?_set] at current_at member_at
      split at current_at
      · next same =>
        rw [if_pos same] at member_at
        split at current_at
        · cases current_at
          split at member_at
          · cases member_at
            exact keeps found.scanner (undisturbed.of_get? at_work got)
          · cases member_at
        · cases current_at
      · next different =>
        rw [if_neg different] at member_at
        exact undisturbed.each current_at member_at

/-- A worker has a scanner in the pool. -/
theorem get?_of_worker (undisturbed : session.Undisturbed) {index : Nat} {worker : Worker}
    (at_work : session.workers[index]? = some worker) :
    ∃ found, session.pool.get? index = some found := by
  obtain ⟨bound, _⟩ := List.getElem?_eq_some_iff.mp at_work
  rw [undisturbed.length_eq] at bound
  rw [ScannerPool.get?, List.getElem?_eq_getElem bound]
  exact ⟨_, rfl⟩

/-- A turn leaves a session undisturbed. -/
theorem take (undisturbed : session.Undisturbed) (turn : Turn) :
    (session.take turn).Undisturbed := by
  cases turn with
  | create text => exact undisturbed.append (.ofText text .empty) _
  | join index text =>
      rw [Session.take]
      split
      · exact undisturbed
      · next worker at_work =>
        obtain ⟨found, got⟩ := undisturbed.get?_of_worker at_work
        rw [ScannerPool.addSharing, got]
        exact undisturbed.append (.ofText text found.scanner.patterns) _
  | copy index =>
      rw [Session.take]
      split
      · next text record at_work =>
        obtain ⟨found, got⟩ := undisturbed.get?_of_worker at_work
        rw [ScannerPool.addCopy, got]
        exact undisturbed.append (undisturbed.of_get? at_work got) _
      · exact undisturbed
  | ask index operation =>
      rw [Session.take]
      split
      · next text record at_work =>
        exact undisturbed.perform at_work operation operation.begin fun scanner alone =>
          alone.begin rfl operation
      · exact undisturbed
  | proceed index =>
      rw [Session.take]
      split
      · next text record task at_work =>
        exact undisturbed.perform at_work task.operation task.advance fun scanner alone =>
          alone.advance rfl
      · exact undisturbed

theorem takeAll (undisturbed : session.Undisturbed) (turns : List Turn) :
    (session.takeAll turns).Undisturbed := by
  induction turns generalizing session with
  | nil => exact undisturbed
  | cons turn turns ih => exact ih (undisturbed.take turn)

theorem empty : Session.empty.Undisturbed where
  length_eq := rfl
  each at_work := by cases at_work

end Session.Undisturbed

/-- However scanners that share caches take turns, each of them has given the answers that it would
have given alone with a cache of its own.  When it has done what it was asked for, nothing but its
cache differs from what it would have been alone; and in the middle of a scan it is on the way
there. -/
theorem sharing_goes_unnoticed (turns : List Turn) (index : Nat) (worker : Worker)
    (at_work : (Session.empty.takeAll turns).workers[index]? = some worker) :
    ∃ found, (Session.empty.takeAll turns).pool.get? index = some found ∧
      worker.Undisturbed found.scanner := by
  have undisturbed := Session.Undisturbed.empty.takeAll turns
  obtain ⟨found, got⟩ := undisturbed.get?_of_worker at_work
  exact ⟨found, got, undisturbed.of_get? at_work got⟩

/-- Two scanners share a cache; while the first is in the middle of a scan, the second asks for a
pattern that cannot be read and for one that is new.  Then a copy of the first scans while the
second does, with a cache that holds a pattern it never asked for. -/
def interleavedTurns : List Turn :=
  [.create "\"A=x\"A".toList, .join 0 "b7".toList,
    .ask 0 .scanTwice, .ask 1 (.trim ['['] false), .proceed 0, .ask 1 (.trim ['B'] true),
    .proceed 0, .proceed 0, .ask 1 .scanTokens, .proceed 0, .proceed 1, .proceed 0, .proceed 0,
    .copy 0, .ask 2 (.resetToSource 0), .ask 2 .scanTokens, .proceed 2, .proceed 1, .proceed 2,
    .proceed 2]

theorem sharing_goes_unnoticed_interleavedTurns :
    ∃ worker found, (Session.empty.takeAll interleavedTurns).workers[2]? = some worker ∧
      worker.record.length = 3 ∧ worker.task = none ∧
      (Session.empty.takeAll interleavedTurns).pool.get? 2 = some found ∧
      found.scanner.patterns.size = 2 ∧ worker.Undisturbed found.scanner := by
  have finished : (Session.empty.takeAll interleavedTurns).workers[2]?.map
      (fun worker => (worker.record.length, worker.task.isNone)) = some (3, true) := by
    decide +kernel
  have cached : ((Session.empty.takeAll interleavedTurns).pool.get? 2).map
      (·.scanner.patterns.size) = some 2 := by
    decide +kernel
  obtain ⟨worker, at_work, counts⟩ := Option.map_eq_some_iff.mp finished
  obtain ⟨length_eq, idle⟩ := Prod.mk.inj counts
  obtain ⟨found, got, undisturbed⟩ := sharing_goes_unnoticed interleavedTurns 2 worker at_work
  rw [got] at cached
  exact ⟨worker, found, at_work, length_eq, Option.isNone_iff_eq_none.mp idle, got,
    Option.some.inj cached, undisturbed⟩

end Scanner
end MmlScan
