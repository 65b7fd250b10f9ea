import TaskScript.Bindings

/-!
# Environment — names looked up in the environment of a process

A system keeps an environment as texts that consist of a name, an equals sign and a value.  It looks
for the first text that begins with the name it is asked for and an equals sign.  A name that holds
equals signs itself can thus find the end of a value.

- `Environment.value?` : what a name finds

For names without equals signs this is plain look-up, as `value?_eq_get?` says.
-/

namespace TaskScript
namespace Environment

/-- What follows a name and an equals sign in a text that begins with both. -/
def rest? : List Char → List Char → Option (List Char)
  | [], '=' :: text => some text
  | c :: name, d :: text => if c = d then rest? name text else none
  | _, _ => none

/-- What a name finds; an empty one finds nothing, nor does one that no text could hold. -/
def value? (environment : Bindings String) (name : String) : Option String :=
  if name.toList.isEmpty || name.toList.contains '\x00' then none
  else
    environment.entries.findSome? fun entry =>
      (rest? name.toList (entry.1.toList ++ '=' :: entry.2.toList)).map String.ofList

/-! ## Names without equals signs -/

/-- A text whose name has no equals sign is found by that name only. -/
theorem rest?_append {name other value : List Char} (h : '=' ∉ name) (h' : '=' ∉ other) :
    rest? name (other ++ '=' :: value) = if name = other then some value else none := by
  induction name generalizing other with
  | nil =>
    cases other with
    | nil => simp [rest?]
    | cons d other =>
      have : d ≠ '=' := fun e => h' (by simp [e])
      simp [rest?, this]
  | cons c name ih =>
    have hc : c ≠ '=' := fun e => h (by simp [e])
    cases other with
    | nil => simp [rest?, hc]
    | cons d other =>
      by_cases hd : c = d
      · simp [rest?, hd, ih (fun e => h (List.mem_cons_of_mem _ e))
          (fun e => h' (List.mem_cons_of_mem _ e))]
      · simp [rest?, hd]

/-- A name without equals signs finds its value, if no name has any. -/
theorem value?_eq_get? {environment : Bindings String} {name : String}
    (some' : name.toList.isEmpty = false) (noNul : name.toList.contains '\x00' = false)
    (h : '=' ∉ name.toList) (h' : ∀ entry ∈ environment.entries, '=' ∉ entry.1.toList) :
    value? environment name = environment.get? name := by
  obtain ⟨entries⟩ := environment
  simp only [value?, Bindings.get?, some', noNul, Bool.or_self, Bool.false_eq_true, if_false]
  induction entries with
  | nil => rfl
  | cons entry entries ih =>
    have rest := ih fun e he => h' e (List.mem_cons_of_mem _ he)
    obtain ⟨other, value⟩ := entry
    rw [List.findSome?_cons, rest?_append h (h' _ List.mem_cons_self), rest]
    by_cases he : name = other
    · simp [he]
    · have hl : name.toList ≠ other.toList := fun e => he (String.toList_inj.1 e)
      have hb : (name == other) = false := by simpa using he
      simp [hl, List.lookup_cons, hb]

end Environment
end TaskScript
