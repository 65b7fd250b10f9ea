import Mathlib
import TaskScript.File.Discovery

/-!
# Discovery — the nearest script

The candidates are numbered by directory and by name: how many steps the directory is above the
start, and which of the script names it is.  A nearer directory counts before a better name.

- `Path.above?`            : the directory so many steps above a path
- `Discovery.candidate?`   : a candidate by its two numbers
- `Discovery.Search`       : the search, one directory after the other
- `Discovery.Search.ends`  : it comes to an end, with what is found
- `Discovery.nearest_script` : what is found is the first candidate that is a file
-/

namespace TaskScript

/-! ## Lists in rows -/

/-- Rows of one length, one after the other: an entry is found by its row and its place in it. -/
theorem getElem?_flatMap_of_length {α β : Type} {row : α → List β} {width : Nat}
    (even : ∀ a, (row a).length = width) (l : List α) (n : Nat) {k : Nat} (within : k < width) :
    (l.flatMap row)[width * n + k]? = l[n]?.bind fun a => (row a)[k]? := by
  induction l generalizing n with
  | nil => rfl
  | cons a l ih =>
    rw [List.flatMap_cons]
    cases n with
    | zero =>
      rw [Nat.mul_zero, Nat.zero_add, List.getElem?_append_left (by rwa [even])]
      rfl
    | succ n =>
      have beyond : (row a).length ≤ width * (n + 1) + k := by
        rw [even, Nat.mul_succ]
        omega
      have shifted : width * (n + 1) + k - (row a).length = width * n + k := by
        rw [even, Nat.mul_succ]
        omega
      rw [List.getElem?_append_right beyond, shifted, ih, List.getElem?_cons_succ]

/-! ## Directories above a path -/

namespace Path

/-- The path that is left after so many steps from a path to its parent. -/
def above? (start : Path) : Nat → Option Path
  | 0 => some start
  | n + 1 => (start.above? n).bind parent?

/-- The first step may be taken first. -/
theorem above?_succ (start : Path) (n : Nat) :
    start.above? (n + 1) = start.parent?.bind fun parent => parent.above? n := by
  induction n with
  | zero => simp [above?]
  | succ n ih =>
    rw [above?, ih]
    cases start.parent? <;> rfl

theorem ancestors_of_parent {path parent : Path} (up : path.parent? = some parent) :
    path.ancestors = path :: parent.ancestors := by
  rw [ancestors]
  split
  · next other same => rw [Option.some.inj (up.symm.trans same)]
  · next top => rw [up] at top; cases top

theorem ancestors_of_top {path : Path} (top : path.parent? = none) : path.ancestors = [path] := by
  rw [ancestors]
  split
  · next parent up => rw [top] at up; cases up
  · rfl

/-- Each path has what is so many steps above it at this place among its ancestors. -/
theorem getElem?_ancestors (start : Path) (n : Nat) : start.ancestors[n]? = start.above? n := by
  induction n generalizing start with
  | zero =>
    cases up : start.parent? with
    | some parent => rw [ancestors_of_parent up]; rfl
    | none => rw [ancestors_of_top up]; rfl
  | succ n ih =>
    rw [above?_succ]
    cases up : start.parent? with
    | some parent => rw [ancestors_of_parent up, List.getElem?_cons_succ, ih]; rfl
    | none => rw [ancestors_of_top up]; rfl

/-- Each step takes something away, whatever the path looks like. -/
theorem length_of_above? {start path : Path} {n : Nat} (above : start.above? n = some path) :
    path.chars.length + n ≤ start.chars.length := by
  induction n generalizing path with
  | zero => rw [Option.some.inj above]; omega
  | succ n ih =>
    obtain ⟨below, under, up⟩ := Option.bind_eq_some_iff.1 above
    have shorter := length_lt_of_parent? up
    have sofar := ih under
    omega

end Path

namespace Discovery

variable {store : Store} {start path : Path}

/-! ## Candidates -/

/-- The candidates in one directory. -/
def candidatesIn (directory : Path) : List Path :=
  scriptNames.map fun name => directory.join (.ofString name)

/-- The candidate with the script name number `k` in the directory that is `n` steps above the
start. -/
def candidate? (start : Path) (n k : Nat) : Option Path :=
  (start.above? n).bind fun directory => (candidatesIn directory)[k]?

theorem length_candidatesIn (directory : Path) :
    (candidatesIn directory).length = scriptNames.length :=
  List.length_map _

/-- All candidates, the nearest directory first, and in it one name after the other. -/
theorem getElem?_candidates (start : Path) (n : Nat) {k : Nat} (within : k < scriptNames.length) :
    (candidates start)[scriptNames.length * n + k]? = candidate? start n k := by
  rw [candidate?, ← Path.getElem?_ancestors]
  exact getElem?_flatMap_of_length length_candidatesIn start.ancestors n within

theorem lt_of_candidate? {n k : Nat} (is : candidate? start n k = some path) :
    k < scriptNames.length := by
  obtain ⟨directory, -, at_⟩ := Option.bind_eq_some_iff.1 is
  rw [← length_candidatesIn directory]
  exact (List.getElem?_eq_some_iff.1 at_).1

theorem candidates_of_parent {parent : Path} (up : start.parent? = some parent) :
    candidates start = candidatesIn start ++ candidates parent := by
  rw [candidates, Path.ancestors_of_parent up, List.flatMap_cons]
  rfl

theorem candidates_of_top (top : start.parent? = none) :
    candidates start = candidatesIn start := by
  rw [candidates, Path.ancestors_of_top top, List.flatMap_cons, List.flatMap_nil, List.append_nil]
  rfl

/-- One place of a table in rows is before another one. -/
theorem row_lt_iff {m n k l width : Nat} (first : l < width) (second : k < width) :
    width * m + l < width * n + k ↔ m < n ∨ m = n ∧ l < k := by
  rcases Nat.lt_trichotomy m n with less | rfl | more
  · have apart : width * (m + 1) ≤ width * n := Nat.mul_le_mul_left width less
    rw [Nat.mul_succ] at apart
    omega
  · omega
  · have apart : width * (n + 1) ≤ width * m := Nat.mul_le_mul_left width more
    rw [Nat.mul_succ] at apart
    omega

/-! ## The search -/

/-- A search has come to a directory, and has tried some paths before. -/
structure Search where
  directory : Path
  tried : List Path

namespace Search

/-- The outcome of a search that has tried everything. -/
def vain (tried : List Path) : Except ScriptFault Path :=
  .error (.notFound (tried.map Path.display))

/-- The names are tried in the directory.  If none is a file, the search goes on in its parent. -/
def advance (store : Store) (s : Search) : Search ⊕ Except ScriptFault Path :=
  match (candidatesIn s.directory).find? store.isFile with
  | some path => .inr (.ok path)
  | none =>
    match s.directory.parent? with
    | some parent => .inl ⟨parent, s.tried ++ candidatesIn s.directory⟩
    | none => .inr (vain (s.tried ++ candidatesIn s.directory))

/-- A search comes to an end after some directories. -/
inductive Ends (store : Store) : Search → Except ScriptFault Path → Prop where
  | last {s : Search} {result : Except ScriptFault Path} (done : s.advance store = .inr result) :
      Ends store s result
  | next {s t : Search} {result : Except ScriptFault Path} (on : s.advance store = .inl t)
      (rest : Ends store t result) : Ends store s result

/-- What a search comes to that has tried some paths. -/
def outcome (store : Store) (s : Search) : Except ScriptFault Path :=
  match (candidates s.directory).find? store.isFile with
  | some path => .ok path
  | none => vain (s.tried ++ candidates s.directory)

/-- One step does not change what the search comes to. -/
theorem outcome_eq (store : Store) (s : Search) :
    s.outcome store = (s.advance store).elim (outcome store) id := by
  unfold outcome advance
  cases up : s.directory.parent? with
  | none =>
    rw [candidates_of_top up]
    cases (candidatesIn s.directory).find? store.isFile <;> rfl
  | some parent =>
    rw [candidates_of_parent up, List.find?_append]
    cases (candidatesIn s.directory).find? store.isFile with
    | some path => rfl
    | none =>
      rw [Option.none_or, ← List.append_assoc]
      rfl

/-- Every search comes to an end, since paths get shorter on the way up. -/
theorem ends (store : Store) (s : Search) : Ends store s (s.outcome store) := by
  induction h : s.directory.chars.length using Nat.strongRecOn generalizing s with
  | _ length ih =>
    rw [outcome_eq]
    cases taken : s.advance store with
    | inr result => exact .last taken
    | inl t =>
      refine .next taken (ih _ ?_ t rfl)
      -- the search has gone on, so it has gone up
      unfold advance at taken
      split at taken
      · cases taken
      · split at taken
        · next parent up =>
          rw [← h, ← Sum.inl.inj taken]
          exact Path.length_lt_of_parent? up
        · cases taken

end Search

/-! ## The first file -/

/-- The search that begins in a directory finds what `find` finds. -/
theorem ends_find (store : Store) (start : Path) :
    Search.Ends store ⟨start, []⟩ (find store start) :=
  Search.ends store ⟨start, []⟩

/-- The path is the candidate with these numbers, it is a file, and no candidate before it is one:
none in a directory that is nearer, and none in the same directory with an earlier name. -/
def IsFirst (store : Store) (start : Path) (n k : Nat) (path : Path) : Prop :=
  candidate? start n k = some path ∧ store.isFile path = true ∧
    ∀ m l other, m < n ∨ m = n ∧ l < k → candidate? start m l = some other →
      store.isFile other = false

theorem find_eq_ok_iff :
    find store start = .ok path ↔ (candidates start).find? store.isFile = some path := by
  unfold find
  cases (candidates start).find? store.isFile <;> simp

theorem find_eq_error_iff {fault : ScriptFault} :
    find store start = .error fault ↔
      (candidates start).find? store.isFile = none ∧
        fault = .notFound ((candidates start).map Path.display) := by
  unfold find
  cases (candidates start).find? store.isFile <;> simp [eq_comm]

/-- Each place among the candidates is that of a directory and a name. -/
theorem exists_numbers {i : Nat} (at_ : (candidates start)[i]? = some path) :
    ∃ n k, k < scriptNames.length ∧ i = scriptNames.length * n + k ∧
      candidate? start n k = some path := by
  have some_ : 0 < scriptNames.length := by decide
  refine ⟨i / scriptNames.length, i % scriptNames.length, Nat.mod_lt i some_,
    (Nat.div_add_mod i scriptNames.length).symm, ?_⟩
  rw [← getElem?_candidates start _ (Nat.mod_lt i some_), Nat.div_add_mod, at_]

/-- The first file among the candidates is the first by the two numbers. -/
theorem exists_isFirst_iff :
    (∃ n k, IsFirst store start n k path) ↔
      (candidates start).find? store.isFile = some path := by
  rw [List.find?_eq_some_iff_getElem]
  constructor
  · rintro ⟨n, k, is, file, before⟩
    have within := lt_of_candidate? is
    rw [← getElem?_candidates start n within, List.getElem?_eq_some_iff] at is
    obtain ⟨inside, same⟩ := is
    refine ⟨file, _, inside, same, fun j less => ?_⟩
    obtain ⟨m, l, within', rfl, is'⟩ :=
      exists_numbers (List.getElem?_eq_getElem (Nat.lt_trans less inside))
    rw [before m l _ ((row_lt_iff within' within).1 less) is']
    rfl
  · rintro ⟨file, i, inside, same, before⟩
    obtain ⟨n, k, within, rfl, is⟩ := exists_numbers (List.getElem?_eq_some_iff.2 ⟨inside, same⟩)
    refine ⟨n, k, is, file, fun m l other less is' => ?_⟩
    have within' := lt_of_candidate? is'
    rw [← getElem?_candidates start m within', List.getElem?_eq_some_iff] at is'
    obtain ⟨inside', rfl⟩ := is'
    simpa using before _ ((row_lt_iff within' within).2 less)

/-- A list of texts that tells every candidate at its place, and nothing else. -/
def Lists (start : Path) (searched : List String) : Prop :=
  ∀ n k, k < scriptNames.length →
    searched[scriptNames.length * n + k]? = (candidate? start n k).map Path.display

theorem lists_iff {searched : List String} :
    Lists start searched ↔ searched = (candidates start).map Path.display := by
  have some_ : 0 < scriptNames.length := by decide
  constructor
  · intro lists
    refine List.ext_getElem? fun i => ?_
    have within := Nat.mod_lt i some_
    rw [List.getElem?_map, ← Nat.div_add_mod i scriptNames.length, lists _ _ within,
      getElem?_candidates start _ within]
  · rintro rfl n k within
    rw [List.getElem?_map, getElem?_candidates start n within]

theorem forall_isFile_iff :
    (∀ n k path, candidate? start n k = some path → store.isFile path = false) ↔
      (candidates start).find? store.isFile = none := by
  rw [List.find?_eq_none]
  constructor
  · intro none_ path mem
    obtain ⟨i, at_⟩ := List.mem_iff_getElem?.1 mem
    obtain ⟨n, k, -, -, is⟩ := exists_numbers at_
    simp [none_ n k path is]
  · intro none_ n k path is
    rw [← getElem?_candidates start n (lt_of_candidate? is)] at is
    simpa using none_ path (List.mem_of_getElem? is)

theorem not_isDirectory_of_isFile (file : store.isFile path = true) :
    store.isDirectory path = false := by
  unfold Store.isFile at file
  unfold Store.isDirectory
  split at file
  · next entry _ =>
    cases entry with
    | file number => rfl
    | program name => rfl
    | directory number | pipe number | link goal | device name => cases file
  · cases file

/-- The search for a script goes from the start to its parent, the parent of that and so on, each of
which is shorter, and comes to an end.  It finds the first candidate that is a file, where a nearer
directory counts before a better name; what has the name but is a directory is passed over.  If
there is none, the message lists every candidate, in their order. -/
theorem nearest_script (store : Store) (start : Path) :
    Search.Ends store ⟨start, []⟩ (find store start) ∧
    (∀ n directory, start.above? n = some directory →
      directory.chars.length + n ≤ start.chars.length) ∧
    (∀ path, find store start = .ok path ↔ ∃ n k, IsFirst store start n k path) ∧
    (∀ path, find store start = .ok path → store.isDirectory path = false) ∧
    ∀ fault, find store start = .error fault ↔
      (∀ n k path, candidate? start n k = some path → store.isFile path = false) ∧
      ∃ searched, Lists start searched ∧ fault = .notFound searched ∧
        fault.message =
          "Failed to find script file (searched: " ++ ", ".intercalate searched ++ ")" := by
  refine ⟨ends_find store start, fun n directory => Path.length_of_above?, ?_, ?_, ?_⟩
  · intro path
    rw [find_eq_ok_iff, exists_isFirst_iff]
  · intro path found
    exact not_isDirectory_of_isFile (List.find?_some (find_eq_ok_iff.1 found))
  · intro fault
    rw [find_eq_error_iff, forall_isFile_iff]
    refine and_congr_right fun _ => ?_
    constructor
    · rintro rfl
      exact ⟨_, lists_iff.2 rfl, rfl, rfl⟩
    · rintro ⟨searched, lists, rfl, -⟩
      rw [lists_iff.1 lists]

/-- A directory that is called like a script, and a script in the directory above it. -/
def shadowed : Store :=
  ((Store.empty []).plantDirectory ["a", "Taskrfile"]).plantFile ["taskrfile"] .empty

/-- The directory is passed over, and so is the better name above it, which is not there. -/
theorem nearest_script_of_shadowed :
    shadowed.isDirectory (.ofString "/a/Taskrfile") = true ∧
      find shadowed (.ofString "/a") = .ok (.ofString "/taskrfile") := by
  have first : IsFirst shadowed (.ofString "/a") 1 1 (.ofString "/taskrfile") := by
    refine ⟨by decide +kernel, by cbv, ?_⟩
    intro m l other before is
    have name : l < 3 := lt_of_candidate? is
    have shown : (candidate? (.ofString "/a") m l).map shadowed.isFile = some false := by
      obtain ⟨rfl, rfl | rfl | rfl⟩ | ⟨rfl, rfl⟩ :
          m = 0 ∧ (l = 0 ∨ l = 1 ∨ l = 2) ∨ m = 1 ∧ l = 0 := by omega
      all_goals cbv
    rw [is] at shown
    exact Option.some.inj shown
  exact ⟨by cbv, ((nearest_script shadowed _).2.2.1 _).2 ⟨1, 1, first⟩⟩

end Discovery
end TaskScript
