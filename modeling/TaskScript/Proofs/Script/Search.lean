import TaskScript.Proofs.Script.References

/-!
# Search — what the search for circles finds

The search leaves out names whose search has ended.  Here it is compared with the plain descent that
follows every reference again, however often it comes by:

- `Script.IsSettled`    : names that lead to each other only, and to no circle
- `Script.firstCircle?` : the circle that the plain descent meets first
- `Script.search_ok`    : a search that ends well settles the names that it has ended
- `Script.faultOf_search` : nothing that is left out would have led the plain descent to a circle
-/

namespace TaskScript
namespace Script

open Relation

variable {script : Script}

/-! ## One step of the search -/

/-- Search below some names in turn. -/
def searchAll (script : Script) (trail ended names : List String) :
    Except ScriptFault (List String) :=
  names.foldlM (fun ended name => script.search trail ended name) ended

/-- The fault that a search ends with, if any. -/
def faultOf : Except ScriptFault (List String) → Option ScriptFault
  | .ok _ => none
  | .error fault => some fault

theorem faultOf_eq_none_iff {result : Except ScriptFault (List String)} :
    faultOf result = none ↔ ∃ ended, result = .ok ended := by
  cases result <;> simp [faultOf]

theorem searchAll_cons (trail ended : List String) (name : String) (names : List String) :
    script.searchAll trail ended (name :: names) =
      (script.search trail ended name).bind fun after => script.searchAll trail after names := rfl

theorem search_of_mem_trail {trail ended : List String} {name : String} (mem : name ∈ trail) :
    script.search trail ended name = .error (.circular (trail.reverse ++ [name])) := by
  rw [search, dif_pos mem]

theorem search_of_mem_ended {trail ended : List String} {name : String} (fresh : name ∉ trail)
    (mem : name ∈ ended) : script.search trail ended name = .ok ended := by
  rw [search, dif_neg fresh, if_pos mem]

theorem search_of_not_found {trail ended : List String} {name : String} (fresh : name ∉ trail)
    (new : name ∉ ended) (unknown : script.findTask? name = none) :
    script.search trail ended name = .error (.undefinedTask name) := by
  rw [search, dif_neg fresh, if_neg new]
  split
  · rfl
  · next found => exact absurd (unknown.symm.trans found) (by simp)

theorem search_of_found {trail ended : List String} {name : String} {task : Task}
    (fresh : name ∉ trail) (new : name ∉ ended) (found : script.findTask? name = some task) :
    script.search trail ended name =
      (script.searchAll (name :: trail) ended task.literalTargets).map fun after =>
        name :: after := by
  rw [search, dif_neg fresh, if_neg new]
  split
  · next unknown => exact absurd (unknown.symm.trans found) (by simp)
  · next other same =>
    obtain rfl : other = task := Option.some.inj (same.symm.trans found)
    rfl

/-! ## Settled names -/

/-- Names that lead to each other only, and none of them back to itself. -/
structure IsSettled (script : Script) (names : List String) : Prop where
  closed : ∀ caller ∈ names, ∀ callee, script.LeadsTo caller callee → callee ∈ names
  acyclic : ∀ name ∈ names, ¬ TransGen script.LeadsTo name name

theorem isSettled_nil : script.IsSettled [] :=
  ⟨by simp, by simp⟩

theorem IsSettled.mem_of_reflTransGen {names : List String} {caller callee : String}
    (h : script.IsSettled names) (mem : caller ∈ names)
    (path : ReflTransGen script.LeadsTo caller callee) : callee ∈ names := by
  induction path with
  | refl => exact mem
  | tail _ leads ih => exact h.closed _ ih _ leads

/-- A name that leads to settled names only is settled with them. -/
theorem IsSettled.cons {names : List String} {name : String} (h : script.IsSettled names)
    (targets : ∀ callee, script.LeadsTo name callee → callee ∈ names) :
    script.IsSettled (name :: names) where
  closed := by
    intro caller mem callee leads
    rcases List.mem_cons.1 mem with rfl | mem
    · exact List.mem_cons_of_mem _ (targets callee leads)
    · exact List.mem_cons_of_mem _ (h.closed caller mem callee leads)
  acyclic := by
    intro other mem circle
    rcases List.mem_cons.1 mem with rfl | mem
    · -- the circle passes through a settled name and comes back, so the name itself was settled
      obtain ⟨callee, leads, back⟩ := TransGen.head'_iff.1 circle
      have settled : other ∈ names := h.mem_of_reflTransGen (targets callee leads) back
      exact h.acyclic other settled circle
    · exact h.acyclic other mem circle

/-- How a search that ends well changes the names that have ended. -/
structure Advances (script : Script) (ended after : List String) : Prop where
  grows : ended ⊆ after
  settles : script.IsSettled ended → script.IsSettled after

theorem Advances.refl (ended : List String) : script.Advances ended ended :=
  ⟨List.Subset.refl _, id⟩

theorem Advances.trans {first second third : List String} (h : script.Advances first second)
    (h' : script.Advances second third) : script.Advances first third :=
  ⟨List.Subset.trans h.grows h'.grows, h'.settles ∘ h.settles⟩

/-- What holds of each search holds of searches made in turn. -/
theorem searchAll_ok_of {trail : List String}
    (each : ∀ ended after name, script.search trail ended name = .ok after →
      script.Advances ended after ∧ name ∈ after)
    {names ended after : List String} (h : script.searchAll trail ended names = .ok after) :
    script.Advances ended after ∧ names ⊆ after := by
  induction names generalizing ended with
  | nil =>
    obtain rfl : ended = after := Except.ok.inj h
    exact ⟨.refl _, List.nil_subset _⟩
  | cons name names ih =>
    rw [searchAll_cons] at h
    cases hs : script.search trail ended name with
    | error fault =>
      rw [hs] at h
      exact nomatch h
    | ok between =>
      rw [hs] at h
      obtain ⟨first, mem⟩ := each ended between name hs
      obtain ⟨rest, sub⟩ := ih h
      exact ⟨first.trans rest, List.cons_subset.2 ⟨rest.grows mem, sub⟩⟩

/-- A search that ends well settles the name and all that were settled with it. -/
theorem search_ok {trail ended after : List String} {name : String}
    (h : script.search trail ended name = .ok after) :
    script.Advances ended after ∧ name ∈ after := by
  induction trail, ended, name using search.induct script generalizing after with
  | case1 trail ended name mem =>
    rw [search_of_mem_trail mem] at h
    exact nomatch h
  | case2 trail ended name fresh mem =>
    rw [search_of_mem_ended fresh mem] at h
    obtain rfl : ended = after := Except.ok.inj h
    exact ⟨.refl _, mem⟩
  | case3 trail ended name fresh new unknown =>
    rw [search_of_not_found fresh new unknown] at h
    exact nomatch h
  | case4 trail ended name fresh new task found ih =>
    rw [search_of_found fresh new found] at h
    cases hs : script.searchAll (name :: trail) ended task.literalTargets with
    | error fault =>
      rw [hs] at h
      exact nomatch h
    | ok between =>
      rw [hs] at h
      obtain rfl : name :: between = after := Except.ok.inj h
      obtain ⟨below, targets⟩ := searchAll_ok_of (fun _ _ _ => ih _ _) hs
      refine ⟨⟨fun n mem => List.mem_cons_of_mem _ (below.grows mem), ?_⟩, List.mem_cons_self⟩
      intro settled
      -- all that the name leads to has ended before it
      exact (below.settles settled).cons fun callee leads =>
        targets ((leadsTo_iff_of_found found).1 leads)

theorem searchAll_ok {trail ended after names : List String}
    (h : script.searchAll trail ended names = .ok after) :
    script.Advances ended after ∧ names ⊆ after :=
  searchAll_ok_of (fun _ _ _ => search_ok) h

/-! ## The plain descent -/

/-- The circle met first when going down from a name along every reference.  `trail` holds the names
from which the descent came, the nearest first. -/
def firstCircle? (script : Script) (trail : List String) (name : String) : Option (List String) :=
  if _onTrail : name ∈ trail then
    some (trail.reverse ++ [name])
  else
    match _found : script.findTask? name with
    | none => none
    | some task =>
      task.literalTargets.findSome? fun target => script.firstCircle? (name :: trail) target
termination_by script.offTrail trail
decreasing_by exact offTrail_cons_lt (mem_taskNames_of_findTask? _found) _onTrail

theorem firstCircle?_of_mem_trail {trail : List String} {name : String} (mem : name ∈ trail) :
    script.firstCircle? trail name = some (trail.reverse ++ [name]) := by
  rw [firstCircle?, dif_pos mem]

theorem firstCircle?_of_not_found {trail : List String} {name : String} (fresh : name ∉ trail)
    (unknown : script.findTask? name = none) : script.firstCircle? trail name = none := by
  rw [firstCircle?, dif_neg fresh]
  split
  · rfl
  · next found => exact absurd (unknown.symm.trans found) (by simp)

theorem firstCircle?_of_found {trail : List String} {name : String} {task : Task}
    (fresh : name ∉ trail) (found : script.findTask? name = some task) :
    script.firstCircle? trail name =
      task.literalTargets.findSome? (script.firstCircle? (name :: trail)) := by
  rw [firstCircle?, dif_neg fresh]
  split
  · next unknown => exact absurd (unknown.symm.trans found) (by simp)
  · next other same =>
    obtain rfl : other = task := Option.some.inj (same.symm.trans found)
    rfl

/-- What the plain descent meets is a circle. -/
theorem isCircle_of_firstCircle? {trail path : List String} {name : String}
    (onTrail : script.IsTrail trail name) (h : script.firstCircle? trail name = some path) :
    script.IsCircle path := by
  induction trail, name using firstCircle?.induct script with
  | case1 trail name mem =>
    rw [firstCircle?_of_mem_trail mem] at h
    obtain rfl := Option.some.inj h
    exact onTrail.isCircle mem
  | case2 trail name fresh unknown =>
    rw [firstCircle?_of_not_found fresh unknown] at h
    exact nomatch h
  | case3 trail name fresh task found ih =>
    rw [firstCircle?_of_found fresh found] at h
    obtain ⟨target, mem, ht⟩ := List.exists_of_findSome?_eq_some h
    exact ih target (onTrail.cons fresh ((leadsTo_iff_of_found found).2 mem)) ht

/-- From a settled name the plain descent meets no circle, wherever it came from. -/
theorem firstCircle?_of_isSettled {trail names : List String} {name : String}
    (settled : script.IsSettled names) (onTrail : script.IsTrail trail name)
    (mem : name ∈ names) : script.firstCircle? trail name = none := by
  induction trail, name using firstCircle?.induct script with
  | case1 trail name again =>
    exact absurd (onTrail.transGen again) (settled.acyclic name mem)
  | case2 trail name fresh unknown => exact firstCircle?_of_not_found fresh unknown
  | case3 trail name fresh task found ih =>
    rw [firstCircle?_of_found fresh found, List.findSome?_eq_none_iff]
    intro target isTarget
    have leads : script.LeadsTo name target := (leadsTo_iff_of_found found).2 isTarget
    exact ih target (onTrail.cons fresh leads) (settled.closed name mem target leads)

/-! ## The search against the plain descent -/

/-- Every reference is to a task that is declared. -/
def RefersWithin (script : Script) : Prop :=
  ∀ caller callee, script.LeadsTo caller callee → callee ∈ script.taskNames

/-- What holds of each search holds of searches made in turn: the first circle decides. -/
theorem faultOf_searchAll_of {trail : List String}
    (each : ∀ ended name, script.IsSettled ended → script.IsTrail trail name →
      name ∈ script.taskNames →
      faultOf (script.search trail ended name) = (script.firstCircle? trail name).map .circular)
    {names ended : List String} (settled : script.IsSettled ended)
    (onTrail : ∀ name ∈ names, script.IsTrail trail name)
    (declared : ∀ name ∈ names, name ∈ script.taskNames) :
    faultOf (script.searchAll trail ended names) =
      (names.findSome? (script.firstCircle? trail)).map .circular := by
  induction names generalizing ended with
  | nil => rfl
  | cons name names ih =>
    have first := each ended name settled (onTrail name List.mem_cons_self)
      (declared name List.mem_cons_self)
    rw [searchAll_cons, List.findSome?_cons]
    cases hs : script.search trail ended name with
    | error fault =>
      rw [hs] at first
      cases hc : script.firstCircle? trail name with
      | none => simp [hc, faultOf] at first
      | some path =>
        rw [hc] at first
        exact first
    | ok after =>
      rw [hs] at first
      cases hc : script.firstCircle? trail name with
      | none =>
        exact ih ((search_ok hs).1.settles settled)
          (fun n mem => onTrail n (List.mem_cons_of_mem _ mem))
          (fun n mem => declared n (List.mem_cons_of_mem _ mem))
      | some path => simp [hc, faultOf] at first

/-- Leaving out settled names neither hides a circle nor changes which one is met first. -/
theorem faultOf_search (within : script.RefersWithin) {trail ended : List String} {name : String}
    (settled : script.IsSettled ended) (onTrail : script.IsTrail trail name)
    (declared : name ∈ script.taskNames) :
    faultOf (script.search trail ended name) =
      (script.firstCircle? trail name).map .circular := by
  induction trail, ended, name using search.induct script with
  | case1 trail ended name mem =>
    rw [search_of_mem_trail mem, firstCircle?_of_mem_trail mem]
    rfl
  | case2 trail ended name fresh mem =>
    -- the search leaves the name out, and the descent comes back from it
    rw [search_of_mem_ended fresh mem, firstCircle?_of_isSettled settled onTrail mem]
    rfl
  | case3 trail ended name fresh new unknown =>
    exact absurd declared (findTask?_eq_none_iff.1 unknown)
  | case4 trail ended name fresh new task found ih =>
    have below : faultOf (script.searchAll (name :: trail) ended task.literalTargets) =
        (task.literalTargets.findSome? (script.firstCircle? (name :: trail))).map .circular := by
      refine faultOf_searchAll_of (fun e t hs ht hd => ih e t hs ht hd) settled ?_ ?_
      · intro target mem
        exact onTrail.cons fresh ((leadsTo_iff_of_found found).2 mem)
      · intro target mem
        exact within name target ((leadsTo_iff_of_found found).2 mem)
    rw [search_of_found fresh new found, firstCircle?_of_found fresh found, ← below]
    cases script.searchAll (name :: trail) ended task.literalTargets <;> rfl

theorem circleFault?_eq_faultOf :
    script.circleFault? = faultOf (script.searchAll [] [] script.taskNames) := by
  unfold circleFault? faultOf searchAll
  split <;> simp_all

/-- The first circle of a script is the one that the plain descents from its tasks meet first. -/
theorem circleFault?_eq (within : script.RefersWithin) :
    script.circleFault? =
      (script.taskNames.findSome? (script.firstCircle? [])).map .circular := by
  rw [circleFault?_eq_faultOf]
  exact faultOf_searchAll_of (fun _ _ => faultOf_search within) isSettled_nil
    (fun name _ => isTrail_nil name) (fun _ mem => mem)

/-- The search finds no fault if and only if no references form a circle. -/
theorem circleFault?_eq_none_iff (within : script.RefersWithin) :
    script.circleFault? = none ↔ ∀ name, ¬ TransGen script.LeadsTo name name := by
  constructor
  · intro h name circle
    rw [circleFault?_eq_faultOf, faultOf_eq_none_iff] at h
    obtain ⟨after, hs⟩ := h
    obtain ⟨advances, all⟩ := searchAll_ok hs
    obtain ⟨callee, leads, -⟩ := TransGen.head'_iff.1 circle
    exact (advances.settles isSettled_nil).acyclic name (all leads.mem_taskNames) circle
  · intro acyclic
    rw [circleFault?_eq within, Option.map_eq_none_iff, List.findSome?_eq_none_iff]
    intro name _
    cases hc : script.firstCircle? [] name with
    | none => rfl
    | some path =>
      obtain ⟨other, circle⟩ := (isCircle_of_firstCircle? (isTrail_nil name) hc).exists_transGen
      exact absurd circle (acyclic other)

end Script
end TaskScript
