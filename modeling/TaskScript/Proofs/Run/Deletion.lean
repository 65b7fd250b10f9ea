import Mathlib
import TaskScript.Proofs.File.Removal
import TaskScript.Proofs.Run.Move

/-!
# Deletion — what becomes of files without child processes

A run that starts no child process changes the store only by removing names, one for each deletion
that succeeds.

- `Runner.Deletes`          : a command, about to be carried out, deletes what a location holds
- `Runner.store_advance`    : a step removes one location, or leaves the store as it is
- `Runner.deleteFile_again` : what has been deleted can be deleted again, and nothing happens
- `Runner.deletion`         : what runs leave of the store, and what a deletion does
-/

namespace TaskScript

/-- No command of a script asks for a child process. -/
def Script.Childless (script : Script) : Prop :=
  ∀ task ∈ script.tasks, ∀ command ∈ task.commands, command.keyword ≠ "run"

instance (script : Script) : Decidable script.Childless :=
  inferInstanceAs (Decidable (∀ task ∈ script.tasks, ∀ command ∈ task.commands,
    command.keyword ≠ "run"))

namespace Runner

variable {spawn : Spawn} {r s : Runner} {owner path : String} {command : Command} {a : Stage}
  {focus : Focus} {location : Location}

/-! ## One deletion -/

/-- The path that a text stands for, seen from the working directory. -/
def pathOf (r : Runner) (text : String) : Path :=
  r.settings.workingDir.join (.ofString text)

theorem deleteFile_of_ok {after : Store} (done : r.store.unlink (r.pathOf path) = .ok after) :
    (r.deleteFile path).1 = .ok (some ("Deleted " ++ quoted path)) ∧
      (r.deleteFile path).2.store = after := by
  unfold pathOf at done
  unfold deleteFile
  dsimp only
  rw [done]
  exact ⟨rfl, rfl⟩

theorem deleteFile_of_missing (missing : r.store.unlink (r.pathOf path) = .error .notFound) :
    (r.deleteFile path).1 = .ok none ∧ (r.deleteFile path).2.store = r.store := by
  unfold pathOf at missing
  unfold deleteFile
  dsimp only
  rw [missing]
  exact ⟨rfl, rfl⟩

/-- A deletion that is refused does nothing. -/
theorem deleteFile_of_refusal {cause : SystemError}
    (refused : r.store.unlink (r.pathOf path) = .error cause) (other : cause ≠ .notFound) :
    r.deleteFile path = (.error (.notDeleted (r.pathOf path).display cause), r) := by
  unfold pathOf at refused ⊢
  unfold deleteFile
  dsimp only
  rw [refused]
  split
  · next done => cases done
  · next missing => exact absurd (Except.error.inj missing) other
  · next cause' same => rw [Except.error.inj same]

theorem deleteFile_of_error {cause : SystemError}
    (refused : r.store.unlink (r.pathOf path) = .error cause) (other : cause ≠ .notFound) :
    (r.deleteFile path).1 = .error (.notDeleted (r.pathOf path).display cause) ∧
      (r.deleteFile path).2.store = r.store := by
  rw [deleteFile_of_refusal refused other]
  exact ⟨rfl, rfl⟩

/-- A deletion removes the name, or leaves the store as it is. -/
theorem store_deleteFile (r : Runner) (path : String) :
    r.store.unlink (r.pathOf path) = .ok (r.deleteFile path).2.store ∨
      (r.deleteFile path).2.store = r.store := by
  cases removed : r.store.unlink (r.pathOf path) with
  | ok after =>
    refine .inl (congrArg Except.ok ?_)
    exact (deleteFile_of_ok removed).2.symm
  | error cause =>
    refine .inr ?_
    by_cases missing : cause = .notFound
    · rw [missing] at removed
      exact (deleteFile_of_missing removed).2
    · exact (deleteFile_of_error removed missing).2

/-- What has been deleted is missing, and to delete it again does nothing. -/
theorem deleteFile_again {message : Option String} (done : (r.deleteFile path).1 = .ok message) :
    ((r.deleteFile path).2.deleteFile path).1 = .ok none ∧
      ((r.deleteFile path).2.deleteFile path).2.store = (r.deleteFile path).2.store := by
  have samePath : (r.deleteFile path).2.pathOf path = r.pathOf path := by
    rw [pathOf, (Keeps.deleteFile r path).settings, pathOf]
  refine deleteFile_of_missing ?_
  rw [samePath]
  cases removed : r.store.unlink (r.pathOf path) with
  | ok after =>
    rw [(deleteFile_of_ok removed).2]
    exact Store.unlink_again removed
  | error cause =>
    by_cases missing : cause = .notFound
    · rw [missing] at removed
      rw [(deleteFile_of_missing removed).2]
      exact removed
    · rw [(deleteFile_of_error removed missing).1] at done
      cases done

/-- A deletion that fails leaves the store as it is. -/
theorem store_of_failedDeletion {fault : RunFault}
    (failed : (r.deleteFile path).1 = .error fault) : (r.deleteFile path).2.store = r.store := by
  rcases store_deleteFile r path with removed | same
  · rw [(deleteFile_of_ok removed).1] at failed
    cases failed
  · exact same

/-! ## Steps -/

/-- At a stage of a run, a command is about to be carried out that deletes what the name at a
location stands for: its first argument, resolved at this stage and seen from the working directory,
leads there in the store. -/
def Deletes (store : Store) (a : Stage) (location : Location) : Prop :=
  ∃ owner command arg, a.focus = .command owner command ∧ command.keyword = "del" ∧
    command.args.head? = some arg ∧
    store.placeOf? (a.runner.pathOf (a.runner.resolve owner arg)) = some location

theorem head?_of_del {resolve : String → String} {kind : Keyword} {args : List String}
    (made : Action.ofArgs? resolve kind args = some (.del path)) :
    kind = .del ∧ ∃ arg, args.head? = some arg ∧ path = resolve arg := by
  unfold Action.ofArgs? at made
  split at made
  case h_2 arg rest =>
    cases made
    exact ⟨rfl, arg, rfl, rfl⟩
  all_goals cases made

theorem store_echo (r : Runner) (line : String) : (r.echo line).2.store = r.store := by
  unfold echo
  split
  · rfl
  · rfl

theorem store_noteExtra (r : Runner) (command : Command) (kind : Keyword) :
    (r.noteExtra command kind).store = r.store := by
  unfold noteExtra
  split
  · rfl
  · rfl

/-- Nothing but a child process or a deletion does anything to the store. -/
theorem store_perform (spawn : Spawn) (r : Runner) {action : Action} (noCall : action.kind ≠ .tsk)
    (noChild : action.kind ≠ .run) :
    (r.perform spawn noTask action).2.store = r.store ∨
      ∃ path, action = .del path ∧
        r.store.unlink (r.pathOf path) = .ok (r.perform spawn noTask action).2.store := by
  cases action with
  | run child => exact absurd rfl noChild
  | del path =>
    rcases store_deleteFile r path with removed | same
    · exact .inr ⟨path, rfl, removed⟩
    · exact .inl same
  | ech line => exact .inl (store_echo r line)
  | tsk target => exact absurd rfl noCall
  | var name value => exact .inl rfl

/-- A step removes one location, which is not a directory and is what a command deletes, or it
leaves the store as it is. -/
theorem store_advance (spawn : Spawn) (a : Stage)
    (childless : ∀ owner command, a.focus = .command owner command → command.keyword ≠ "run") :
    (advance spawn a).runner.store = a.runner.store ∨
      ∃ location entry, Deletes a.runner.store a location ∧
        a.runner.store.entryAt? location = some entry ∧ entry.isDirectory = false ∧
        (advance spawn a).runner.store = a.runner.store.without [location] := by
  have move := move_advance spawn a
  generalize (advance spawn a).runner = s at move ⊢
  cases move with
  | rest => exact .inl rfl
  | enter name => exact .inl rfl
  | leave name fault? =>
    cases fault? with
    | none => exact .inl rfl
    | some fault => exact .inl rfl
  | @call owner target command next ready => exact .inl (store_noteExtra a.runner command .tsk)
  | @act owner command action next ready noCall =>
    rcases Option.bind_eq_some_iff.1 ready with ⟨kind, known, made⟩
    have sameKind : command.kind? = some action.kind := kind?_of_action? ready
    have noChild : action.kind ≠ .run := by
      intro isChild
      rw [isChild] at sameKind
      exact childless owner command next (Command.kind?_eq_some_iff.1 sameKind)
    have kept : Keeps a.runner (a.runner.prepared owner command action) :=
      Keeps.prepared a.runner owner command action.kind action
    have store : (a.runner.prepared owner command action).store = a.runner.store :=
      store_noteExtra a.runner command action.kind
    rcases store_perform spawn (a.runner.prepared owner command action) noCall noChild with
      same | ⟨path, rfl, removed⟩
    · exact .inl (same.trans store)
    · refine .inr ?_
      -- what is noted before a deletion moves neither the working directory nor any file
      have samePath : (a.runner.prepared owner command (.del path)).pathOf path =
          a.runner.pathOf path := by
        rw [pathOf, kept.settings, pathOf]
      rw [store, samePath] at removed
      rcases Store.unlink_ok removed with ⟨location, entry, place, holds, noDirectory, left⟩
      rcases head?_of_del made with ⟨-, arg, first, resolved⟩
      rw [resolved] at place
      exact ⟨location, entry,
        ⟨owner, command, arg, next, Command.kind?_eq_some_iff.1 sameKind, first, place⟩,
        holds, noDirectory, left⟩

/-! ## Runs -/

/-- What a run has removed from the store: some locations that held no directories and were deleted
by commands at stages of the run. -/
structure Removes (spawn : Spawn) (focus : Focus) (r : Runner) (removed : List Location)
    (after : Store) : Prop where
  left : after = r.store.without removed
  held : ∀ location ∈ removed, ∃ entry, r.store.entryAt? location = some entry ∧
    entry.isDirectory = false
  deleted : ∀ location ∈ removed, ∃ n, Deletes r.store (stageAt spawn focus r n) location

/-- A location that has been removed held an entry before, which the removals before have left. -/
theorem Deletes.of_without {store : Store} {removed : List Location}
    (h : Deletes (store.without removed) a location) : Deletes store a location := by
  rcases h with ⟨owner, command, arg, next, keyword, first, place⟩
  exact ⟨owner, command, arg, next, keyword, first, Store.placeOf?_of_without place⟩

/-- At each stage of a run that starts no child process, some locations have been removed. -/
theorem removes_stageAt (spawn : Spawn) {focus : Focus} (r : Runner)
    (childless : ∀ n owner command, (stageAt spawn focus r n).focus = .command owner command →
      command.keyword ≠ "run") (n : Nat) :
    ∃ removed, Removes spawn focus r removed (stageAt spawn focus r n).runner.store := by
  induction n with
  | zero => exact ⟨[], (Store.without_nil r.store).symm, nofun, nofun⟩
  | succ n ih =>
    rcases ih with ⟨removed, left, held, deleted⟩
    have next : stageAt spawn focus r (n + 1) = advance spawn (stageAt spawn focus r n) :=
      Function.iterate_succ_apply' _ _ _
    rw [next]
    rcases store_advance spawn (stageAt spawn focus r n) (childless n) with
      same | ⟨location, entry, deletes, holds, noDirectory, left'⟩
    · rw [same]
      exact ⟨removed, left, held, deleted⟩
    -- what is said of the store that is left holds of the first, which leads paths no less far
    · rw [left] at deletes holds left'
      refine ⟨location :: removed, ?_, ?_, ?_⟩
      · rw [left', ← Store.eraseAt_eq_without, Store.eraseAt_without]
      · intro other mem
        rcases List.mem_cons.1 mem with rfl | mem
        · exact ⟨entry, Store.entryAt?_of_without holds, noDirectory⟩
        · exact held other mem
      · intro other mem
        rcases List.mem_cons.1 mem with rfl | mem
        · exact ⟨n, deletes.of_without⟩
        · exact deleted other mem

/-- Where a run has ended, a location holds what it held, unless it has been removed. -/
theorem Removes.entryAt? {removed : List Location} {after : Store}
    (h : Removes spawn focus r removed after) (location : Location) :
    after.entryAt? location =
      if location ∈ removed then none else r.store.entryAt? location := by
  rw [h.left, Store.entryAt?_without]
  by_cases mem : location ∈ removed
  · rcases h.held location mem with ⟨entry, holds, noDirectory⟩
    have notRoot := Store.ne_nil_of_entryAt? holds noDirectory
    simp [mem, notRoot]
  · simp [mem]

/-- Without child processes, a run removes some names of the store and does nothing else to it,
whether it fails or not.  None of them stands for a directory, and each is what the argument of a
command that deletes leads to from the working directory, when the command is carried out.

A deletion that succeeds can be repeated at once, with no message and without any effect, and one
that fails has none. -/
theorem deletion (spawn : Spawn) (r : Runner) :
    (r.script.Childless → ∀ name, ∃ removed,
      Removes spawn (.task name) r removed (r.executeTask spawn name).2.store ∧
      ∀ location, (r.executeTask spawn name).2.store.entryAt? location =
        if location ∈ removed then none else r.store.entryAt? location) ∧
    ∀ path,
      (∀ message, (r.deleteFile path).1 = .ok message →
        ((r.deleteFile path).2.deleteFile path).1 = .ok none ∧
        ((r.deleteFile path).2.deleteFile path).2.store = (r.deleteFile path).2.store) ∧
      ∀ fault, (r.deleteFile path).1 = .error fault → (r.deleteFile path).2.store = r.store := by
  constructor
  · intro childless name
    rcases reaches_executeTask spawn name [] r with ⟨n, ends⟩
    have noChild : ∀ m owner command,
        (stageAt spawn (.task name) r m).focus = .command owner command →
          command.keyword ≠ "run" := by
      intro m owner command next
      rcases command_of_stageAt (by simp) next with asked | ⟨task, found, mem⟩
      · cases asked
      · exact childless task (Script.mem_of_findTask? found) command mem
    rcases removes_stageAt spawn r noChild n with ⟨removed, removes⟩
    rw [stageAt, begin, ends] at removes
    exact ⟨removed, removes, removes.entryAt?⟩
  · intro path
    exact ⟨fun message done => deleteFile_again done,
      fun fault failed => store_of_failedDeletion failed⟩

/-- Two tasks of which one calls the other to delete a file, on a store with two files. -/
def tidy : Runner :=
  { fresh ⟨[⟨"LOG", "a.log"⟩], [⟨"clean", [⟨"tsk", ["sweep"], 2⟩], 1⟩,
      ⟨"sweep", [⟨"del", ["$LOG"], 5⟩, ⟨"zap", [], 6⟩], 4⟩]⟩ with
    store := ((Store.empty []).plantFile ["a.log"] .empty).plantFile ["b.log"] .empty }

/-- The run fails, but it has removed the file that the argument stands for, and no other. -/
theorem deletion_of_tidy :
    ((tidy.executeTask noChild "clean").2.store.entryAt? ["a.log"] = none ∧
      (tidy.executeTask noChild "clean").2.store.entryAt? ["b.log"] = some (.file 2)) ∧
      ∃ removed, Removes noChild (.task "clean") tidy removed
          (tidy.executeTask noChild "clean").2.store ∧ ["a.log"] ∈ removed := by
  have childless : tidy.script.Childless := by decide +kernel
  have gone : (tidy.executeTask noChild "clean").2.store.entryAt? ["a.log"] = none := by
    cbv
  have other : (tidy.executeTask noChild "clean").2.store.entryAt? ["b.log"] = some (.file 2) := by
    cbv
  rcases (deletion noChild tidy).1 childless "clean" with ⟨removed, removes, view⟩
  refine ⟨⟨gone, other⟩, removed, removes, ?_⟩
  -- a file that has not been removed would still be there
  by_contra kept
  have still := view ["a.log"]
  rw [gone, if_neg kept] at still
  exact absurd still (by decide +kernel)

end Runner
end TaskScript
