/-!
# Bindings — names with values

A finite map from names to values of one type, kept as a list of pairs in which each name occurs
once.

- `get?`, `contains` : look-up
- `set`              : assignment; an assigned name keeps its place
- `ofList`           : assignments made in order, so that a later one wins

The view of a map is `get?`; `get?_set` says what an assignment does to it.
-/

namespace TaskScript

/-- Names with their values. -/
structure Bindings (α : Type) where
  entries : List (String × α)
  deriving DecidableEq, Repr

namespace Bindings

variable {α : Type}

/-- No name has a value. -/
def empty : Bindings α := ⟨[]⟩

instance : Inhabited (Bindings α) := ⟨empty⟩

/-- The value of a name. -/
def get? (b : Bindings α) (name : String) : Option α :=
  b.entries.lookup name

/-- Whether a name has a value. -/
def contains (b : Bindings α) (name : String) : Bool :=
  (b.get? name).isSome

/-- Replace the value of a name in a list of pairs, or add the pair at the end. -/
def assign (name : String) (value : α) : List (String × α) → List (String × α)
  | [] => [(name, value)]
  | (n, v) :: rest => if name = n then (name, value) :: rest else (n, v) :: assign name value rest

/-- Give a name a value. -/
def set (b : Bindings α) (name : String) (value : α) : Bindings α :=
  ⟨assign name value b.entries⟩

/-- Give a name a value unless it has one. -/
def setIfAbsent (b : Bindings α) (name : String) (value : α) : Bindings α :=
  if b.contains name then b else b.set name value

/-- Make the assignments of a list in order. -/
def ofList (pairs : List (String × α)) : Bindings α :=
  pairs.foldl (fun b pair => b.set pair.1 pair.2) empty

/-! ## The view -/

theorem lookup_assign (name : String) (value : α) (other : String) (pairs : List (String × α)) :
    (assign name value pairs).lookup other =
      if other = name then some value else pairs.lookup other := by
  induction pairs with
  | nil =>
    by_cases h : other = name
    · simp [assign, h]
    · have : (other == name) = false := by simpa using h
      simp [assign, h, List.lookup_cons, this]
  | cons pair rest ih =>
    obtain ⟨n, v⟩ := pair
    by_cases hn : name = n
    · subst hn
      by_cases h : other = name
      · simp [assign, h]
      · have : (other == name) = false := by simpa using h
        simp [assign, h, List.lookup_cons, this]
    · by_cases h : other = n
      · subst h
        simp [assign, hn, Ne.symm hn]
      · have : (other == n) = false := by simpa using h
        simp [assign, hn, List.lookup_cons, this, ih]

theorem get?_set (b : Bindings α) (name : String) (value : α) (other : String) :
    (b.set name value).get? other = if other = name then some value else b.get? other :=
  lookup_assign name value other b.entries

@[simp] theorem get?_set_self (b : Bindings α) (name : String) (value : α) :
    (b.set name value).get? name = some value := by
  simp [get?_set]

end Bindings
end TaskScript
