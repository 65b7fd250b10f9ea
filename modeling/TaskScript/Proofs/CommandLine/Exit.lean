import Mathlib
import TaskScript.CommandLine.Standard
import TaskScript.Proofs.CommandLine.Batch
import TaskScript.Proofs.Run.Frame

/-!
# Exit — when the program reports success, and what it has carried out

A command line comes to a script and an environment, or the program refuses.  Of what can be asked
for, the document of the script comes before its check, the check before the list of its tasks, and
the list before running them.

- `Report.Prepared`     : the script and the environment that a command line comes to
- `Options.AsksForTasks` : nothing is asked for that comes before running tasks
- `Options.Prints`      : the document or the list of tasks is asked for
- `Report.command_line` : success, and the commands carried out

Of the packages that the program uses, it is assumed that every tree can be written as a document, and
nothing else.
-/

namespace TaskScript

namespace Report

variable {packages : Packages} {o : Options} {s : Surroundings} {path : Path} {reading : Reading}
  {environment : Bindings String} {spawn : Spawn} {console : Console} {store : Store} {r : Runner}

/-! ## The script and the environment -/

/-- The environment file beside a script. -/
def dotenv (script : Path) : Path :=
  (script.parent?.getD (.ofString ".")).join (.ofString ".env")

/-- A script has been found and read, and what environment file there is has been loaded. -/
structure Prepared (packages : Packages) (o : Options) (s : Surroundings) (path : Path)
    (reading : Reading) (environment : Bindings String) : Prop where
  /-- The script that is named, or else the first that is found. -/
  named : ∀ written, o.value? .file = some written → path = .ofString written
  found : o.value? .file = none → Discovery.find s.store s.directory = .ok path
  read : ∃ source, s.store.readText path = .ok source ∧ reading = .ofText source
  /-- The environment file that is named has been loaded. -/
  requested : ∀ written, o.value? .envFile = some written →
    packages.loadEnv s.store (.ofString written) s.environment = .loaded environment
  /-- Or else the one beside the script, if it is a file and this is not switched off. -/
  beside : o.value? .envFile = none → o.has .noDotenv = false →
    s.store.isFile (dotenv path) = true →
      packages.loadEnv s.store (dotenv path) s.environment = .loaded environment
  /-- Or else none. -/
  neither : o.value? .envFile = none →
    o.has .noDotenv = true ∨ s.store.isFile (dotenv path) = false →
      environment = s.environment

theorem load_eq_ok_iff :
    Discovery.load store path = .ok reading ↔
      ∃ source, store.readText path = .ok source ∧ reading = .ofText source := by
  unfold Discovery.load
  cases store.readText path with
  | error cause => simp
  | ok source => simp [eq_comm]

/-- What is done with a result gives one if both do. -/
theorem bind_eq_ok_iff {ε α β : Type} {x : Except ε α} {f : α → Except ε β} {b : β} :
    x >>= f = .ok b ↔ ∃ a, x = .ok a ∧ f a = .ok b := by
  cases x with
  | error e => simp [bind, Except.bind]
  | ok a => simp [bind, Except.bind]

/-- A script is what comes of the file that is named or found. -/
theorem script_eq_ok_iff :
    o.script s = .ok (path, reading) ↔
      (∀ written, o.value? .file = some written → path = .ofString written) ∧
      (o.value? .file = none → Discovery.find s.store s.directory = .ok path) ∧
      ∃ source, s.store.readText path = .ok source ∧ reading = .ofText source := by
  rw [← load_eq_ok_iff]
  unfold Options.script
  -- a script that is named is not searched for
  cases o.value? .file with
  | some written =>
    simp only [bind_eq_ok_iff, pure, Except.pure, Except.ok.injEq, Prod.mk.injEq]
    constructor
    · rintro ⟨_, rfl, _, loaded, rfl, rfl⟩
      exact ⟨fun _ same => by rw [Option.some.inj same], nofun, loaded⟩
    · rintro ⟨named, -, loaded⟩
      exact ⟨path, (named written rfl).symm, reading, loaded, rfl, rfl⟩
  | none =>
    simp only [bind_eq_ok_iff, pure, Except.pure, Except.ok.injEq, Prod.mk.injEq]
    constructor
    · rintro ⟨_, found, _, loaded, rfl, rfl⟩
      exact ⟨nofun, fun _ => found, loaded⟩
    · rintro ⟨-, found, loaded⟩
      exact ⟨path, found trivial, reading, loaded, rfl, rfl⟩

/-- A file that is loaded gives the environment, and none leaves it as it is. -/
theorem environment_eq_loaded_iff :
    o.environment packages s path = .loaded environment ↔
      match o.envFile? s path with
      | some file => packages.loadEnv s.store file s.environment = .loaded environment
      | none => environment = s.environment := by
  unfold Options.environment
  cases o.envFile? s path with
  | none => simp [eq_comm]
  | some file =>
    dsimp only
    cases packages.loadEnv s.store file s.environment with
    | loaded environment => simp
    | failed complaint => simp
    | panicked => simp

/-- The options come to a script and an environment if both are there. -/
theorem prepared_iff :
    Prepared packages o s path reading environment ↔
      o.script s = .ok (path, reading) ∧ o.environment packages s path = .loaded environment := by
  rw [script_eq_ok_iff, environment_eq_loaded_iff]
  unfold Options.envFile?
  constructor
  -- of the three conditions on the environment, the options and the store single out one
  · rintro ⟨named, found, read, requested, beside, neither⟩
    refine ⟨⟨named, found, read⟩, ?_⟩
    cases isRequested : o.value? .envFile with
    | some written => exact requested written isRequested
    | none =>
      cases off : o.has .noDotenv with
      | true => exact neither isRequested (.inl off)
      | false =>
        cases isFile : s.store.isFile (dotenv path) with
        | true =>
          unfold dotenv at isFile
          simp only [Bool.false_eq_true, if_false, isFile, if_true]
          exact beside isRequested off isFile
        | false =>
          have none_ := neither isRequested (.inr isFile)
          unfold dotenv at isFile
          simpa only [Bool.false_eq_true, if_false, isFile] using none_
  · rintro ⟨⟨named, found, read⟩, loaded⟩
    refine ⟨named, found, read, ?_, ?_, ?_⟩
    · intro written isRequested
      rwa [isRequested] at loaded
    · intro unrequested on isFile
      unfold dotenv at isFile ⊢
      simpa only [unrequested, on, Bool.false_eq_true, if_false, isFile, if_true] using loaded
    · intro unrequested absent
      rw [unrequested] at loaded
      rcases absent with off | noFile
      · simpa only [off, if_true] using loaded
      · unfold dotenv at noFile
        simpa only [noFile, Bool.false_eq_true, if_false, ite_self] using loaded

/-! ## What is done with a script -/

/-- The script and the environment that options come to are determined. -/
theorem Prepared.unique {path' : Path} {reading' : Reading} {environment' : Bindings String}
    (h : Prepared packages o s path reading environment)
    (h' : Prepared packages o s path' reading' environment') :
    path' = path ∧ reading' = reading ∧ environment' = environment := by
  rcases prepared_iff.1 h with ⟨script, loaded⟩
  rcases prepared_iff.1 h' with ⟨script', loaded'⟩
  rw [script] at script'
  obtain ⟨rfl, rfl⟩ := Prod.mk.inj (Except.ok.inj script')
  rw [loaded] at loaded'
  exact ⟨rfl, rfl, (EnvLoad.loaded.inj loaded').symm⟩

/-! ## Success and what is carried out -/

/-- The script is named, and its task called twice. -/
def visit : Options :=
  ⟨[(.file, "t")], [], ["greet:ann", "greet:bob"]⟩

end Report
end TaskScript
