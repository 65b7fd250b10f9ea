import TaskScript.File.Store

/-!
# Removal — a store from which locations have been taken

Taking locations from a store does not lead a path anywhere else: it leads where it led before, or
nowhere.  A name that has been removed is therefore missing when it is removed again.

- `Store.without`      : a store without some locations
- `Store.placeOf?`     : the location of the name that a path ends in
- `Store.walk_without` : paths lead where they led before, or nowhere
- `Store.unlink_ok`    : what is removed is the entry of one name, and no directory
- `Store.unlink_again` : it cannot be removed twice
-/

namespace TaskScript

/-- What remains of a list of pairs is found as before. -/
theorem lookup_filter_fst {α β : Type} [BEq α] [LawfulBEq α] (p : α → Bool) (pairs : List (α × β))
    (key : α) :
    (pairs.filter fun pair => p pair.1).lookup key = if p key then pairs.lookup key else none := by
  induction pairs with
  | nil => simp
  | cons pair rest ih =>
    obtain ⟨k, value⟩ := pair
    by_cases same : key = k
    · subst same
      by_cases remains : p key <;> simp [remains, ih]
    · have differs : (key == k) = false := by simpa using same
      by_cases remains : p k <;> simp [remains, ih, List.lookup_cons, differs]

namespace Store

variable {store after : Store} {removed : List Location} {location : Location} {path : Path}

/-! ## What is left -/

/-- The store without some locations. -/
def without (store : Store) (removed : List Location) : Store :=
  { store with entries := store.entries.filter fun e => !removed.contains e.1 }

@[simp] theorem without_nil (store : Store) : store.without [] = store := by
  have all : store.entries.filter (fun e => !([] : List Location).contains e.1) = store.entries :=
    List.filter_eq_self.2 fun _ _ => rfl
  rw [without, all]

/-- Locations may be taken from a store one after the other. -/
theorem eraseAt_without (store : Store) (removed : List Location) (location : Location) :
    (store.without removed).eraseAt location = store.without (location :: removed) := by
  have both : ∀ e : Location × Entry,
      (e.1 != location && !removed.contains e.1) = !(location :: removed).contains e.1 := by
    intro e
    rw [List.contains_cons, Bool.not_or, bne]
  simp only [eraseAt, without, List.filter_filter, both]

theorem eraseAt_eq_without (store : Store) (location : Location) :
    store.eraseAt location = store.without [location] := by
  simpa using eraseAt_without store [] location

/-- A location that has not been taken holds what it held. -/
theorem entryAt?_without (store : Store) (removed : List Location) (location : Location) :
    (store.without removed).entryAt? location =
      if location ∈ removed ∧ location ≠ [] then none else store.entryAt? location := by
  unfold entryAt?
  cases location with
  | nil => simp
  | cons name rest =>
    have remains := lookup_filter_fst (fun other : Location => !removed.contains other)
      store.entries (name :: rest)
    by_cases mem : name :: rest ∈ removed <;> simpa [without, mem] using remains

/-- What a location still holds, it has held before. -/
theorem entryAt?_of_without {entry : Entry}
    (still : (store.without removed).entryAt? location = some entry) :
    store.entryAt? location = some entry := by
  rw [entryAt?_without] at still
  split at still
  · cases still
  · exact still

/-! ## Where paths lead -/

/-- A result is as it was before, or it is that something is missing. -/
def OrMissing {α : Type} (before after : Except SystemError α) : Prop :=
  after = before ∨ after = .error .notFound

/-- What has been taken is missing. -/
theorem enter_without (store : Store) (removed : List Location) (directory : Location)
    (name : String) :
    OrMissing (store.enter directory name) ((store.without removed).enter directory name) := by
  unfold OrMissing enter
  rw [entryAt?_without]
  by_cases long : name.length > nameLimit
  · simp [long]
  · by_cases taken : step directory name ∈ removed ∧ step directory name ≠ [] <;> simp [long, taken]

/-- A way is as before if its first step is, and else something is missing on it. -/
theorem walk_cons_without {links : Nat} {directory : Location} {name : String} {rest : List String}
    (onward : (store.without removed).enter directory name = store.enter directory name →
      OrMissing (store.walk links directory (name :: rest))
        ((store.without removed).walk links directory (name :: rest))) :
    OrMissing (store.walk links directory (name :: rest))
      ((store.without removed).walk links directory (name :: rest)) := by
  rcases enter_without store removed directory name with same | missing
  · exact onward same
  · refine .inr ?_
    rw [walk, missing]

/-- A way through directories is the same as before, or a directory or a link on it is missing. -/
theorem walk_without (store : Store) (removed : List Location) (links : Nat)
    (directory : Location) (names : List String) :
    OrMissing (store.walk links directory names)
      ((store.without removed).walk links directory names) := by
  -- along the way as it was before
  induction links, directory, names using walk.induct store with
  | case1 links directory =>
    refine .inl ?_
    rw [walk, walk]
  | case2 links directory name rest number found ih =>
    refine walk_cons_without fun same => ?_
    rw [walk, walk, same, found]
    exact ih
  | case4 directory name rest goal found links ih =>
    refine walk_cons_without fun same => ?_
    rw [walk, walk, same, found]
    exact ih
  | _ =>
    -- nothing but a directory or a link leads any further
    rename_i found
    refine walk_cons_without fun same => .inl ?_
    rw [walk, walk, same, found]

/-- So is the directory in which a path ends. -/
theorem target_without (store : Store) (removed : List Location) (path : Path) :
    OrMissing (store.target path) ((store.without removed).target path) := by
  have here : (store.without removed).here = store.here := rfl
  unfold target targetFrom
  -- which paths are refused at once has nothing to do with what the store holds
  rw [here]
  split
  · exact .inl rfl
  split
  · exact .inl rfl
  split
  · exact .inl rfl
  dsimp only
  cases (namesIn path).getLast? with
  | none => exact .inl rfl
  | some last =>
    dsimp only
    have way := walk_without store removed linkLimit (origin store.here path)
      (namesIn path).dropLast
    rcases way with same | missing
    · exact .inl (by rw [same])
    · exact .inr (by rw [missing])

/-- The location of the name that a path ends in.  The name need not exist. -/
def placeOf? (store : Store) (path : Path) : Option Location :=
  match store.target path with
  | .ok ⟨parent, some name, false⟩ =>
    if name == "." || name == ".." then none else some (step parent name)
  | _ => none

/-- Where a path still leads, it has led before. -/
theorem placeOf?_of_without (still : (store.without removed).placeOf? path = some location) :
    store.placeOf? path = some location := by
  unfold placeOf? at still ⊢
  rcases target_without store removed path with same | missing
  · rwa [same] at still
  · rw [missing] at still
    cases still

/-! ## Removing a name -/

theorem entryAt?_of_enter {directory : Location} {name : String} {entry : Entry}
    (entered : store.enter directory name = .ok entry) :
    name.length ≤ nameLimit ∧ store.entryAt? (step directory name) = some entry := by
  unfold enter at entered
  split at entered
  · cases entered
  · next short =>
    refine ⟨Nat.not_lt.1 short, ?_⟩
    split at entered
    · next found => rw [found, Except.ok.inj entered]
    · cases entered

/-- A name is removed if the path ends in one, without a slash, and no directory stands under it. -/
theorem parts_of_unlink (done : store.unlink path = .ok after) :
    ∃ parent name entry, store.target path = .ok ⟨parent, some name, false⟩ ∧
      (name == "." || name == "..") = false ∧ store.enter parent name = .ok entry ∧
      entry.isDirectory = false ∧ after = store.without [step parent name] := by
  unfold unlink at done
  split at done
  · cases done
  · cases done
  · next parent name slash found =>
    split at done
    · cases done
    · next ordinary =>
      split at done
      · cases done
      · next entry entered =>
        split at done
        · cases done
        · next noDirectory =>
          split at done
          · cases done
          · next noSlash =>
            rw [Bool.not_eq_true] at ordinary noDirectory noSlash
            rw [noSlash] at found
            have erased := eraseAt_eq_without store (step parent name)
            exact ⟨parent, name, entry, found, ordinary, entered, noDirectory,
              (Except.ok.inj done).symm.trans erased⟩

/-- What is removed is what stands under the name that the path ends in.  It is no directory. -/
theorem unlink_ok (done : store.unlink path = .ok after) :
    ∃ location entry, store.placeOf? path = some location ∧
      store.entryAt? location = some entry ∧ entry.isDirectory = false ∧
      after = store.without [location] := by
  rcases parts_of_unlink done with
    ⟨parent, name, entry, found, ordinary, entered, noDirectory, left⟩
  rcases entryAt?_of_enter entered with ⟨-, holds⟩
  have place : store.placeOf? path = some (step parent name) := by
    simp only [placeOf?, found, ordinary, Bool.false_eq_true, if_false]
  exact ⟨step parent name, entry, place, holds, noDirectory, left⟩

/-- The root is a directory, so that nothing else is no directory. -/
theorem ne_nil_of_entryAt? {entry : Entry} (holds : store.entryAt? location = some entry)
    (noDirectory : entry.isDirectory = false) : location ≠ [] := by
  rintro rfl
  obtain rfl : Entry.directory rootNumber = entry := Option.some.inj holds
  cases noDirectory

/-- A name that has been removed is missing, or a link on the way to it is. -/
theorem unlink_again (done : store.unlink path = .ok after) :
    after.unlink path = .error .notFound := by
  rcases parts_of_unlink done with
    ⟨parent, name, entry, found, ordinary, entered, noDirectory, left⟩
  rcases entryAt?_of_enter entered with ⟨short, holds⟩
  have gone : after.entryAt? (step parent name) = none := by
    have notRoot := ne_nil_of_entryAt? holds noDirectory
    simp [left, entryAt?_without, notRoot]
  have missing : after.enter parent name = .error .notFound := by
    simp [enter, gone, Nat.not_lt.2 short]
  -- the way to the name may lead over it, and then it is missing there
  have way := target_without store [step parent name] path
  rw [← left, found] at way
  rcases way with same | missing'
  · simp [unlink, same, ordinary, missing]
  · simp [unlink, missing']

end Store
end TaskScript
