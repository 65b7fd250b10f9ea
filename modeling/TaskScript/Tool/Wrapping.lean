import TaskScript.Tool.Input
import TaskScript.Tool.Quantity

/-!
# Wrapping — starting other programs

`env` starts them in another environment.
-/

namespace TaskScript

open Shell (Machine)

namespace Tool

/-- The status of a program that could not be started. -/
def unstartedStatus : SystemError → Nat
  | .notFound => 127
  | _ => 126

/-- Take the process over with a program, or tell why that is impossible. -/
def takeOver (launch : Launch) (command : List String) (m : Machine) : Machine :=
  match launch command m with
  | .ok after => after
  | .error cause =>
    failWith (unstartedStatus cause)
      (Quoting.plain (command.headD "") ++ ": " ++ cause.reason) m

/-! ## Environments -/

namespace Surroundings

/-- A name and its value, if a text has an equals sign. -/
def assignment? (text : String) : Option (String × String) :=
  (Text.splitOnce? '=' text.toList).map fun (name, value) =>
    (String.ofList name, String.ofList value)

/-- The environment as options and assignments ask for, and what follows them. -/
def change (o : Options.Reading) (m : Machine) : Machine × List String :=
  let isEmptied := o.has "i" || o.operands.head? == some "-"
  let operands := if o.operands.head? == some "-" then o.operands.tail else o.operands
  let m := if isEmptied then { m with vars := .empty } else m
  let m := (o.values "u").foldl (fun m name => m.restore name none) m
  let assigned := operands.takeWhile fun text => (assignment? text).isSome
  let m := (assigned.filterMap assignment?).foldl (fun (m : Machine) (name, value) =>
    { m with vars := m.vars.set name ⟨some value, true, false⟩ }) m
  (m, operands.drop assigned.length)

end Surroundings

/-- Start a program in another environment, or print that environment. -/
def env (launch : Launch) : Tool :=
  byOptionsAt 125 true [.flag 'i' "ignore-environment", .valued 'u' "unset"] fun o m =>
    match Surroundings.change o m with
    | (changed, []) =>
      changed.environment.entries.foldl (fun m v => m.print (v.1 ++ "=" ++ v.2 ++ "\n")) m
    | (changed, command) => takeOver launch command changed

end Tool
end TaskScript
