import TaskScript.Tool.Input
import TaskScript.Tool.Quantity

/-!
# Identity — what a process is given

- `printenv` : its environment
- `sleep`    : its time
-/

namespace TaskScript

open Shell (Machine)

namespace Tool

/-- Print the values of variables in the environment. -/
def printenv : Tool :=
  byOptionsAt 2 true [.flag '0' "null"] fun o m =>
    let stop := if o.has "0" then "\x00" else "\n"
    let entries := m.environment.entries
    if o.operands.isEmpty then
      entries.foldl (fun m v => m.print (v.1 ++ "=" ++ v.2 ++ stop)) m
    else
      o.operands.foldl (fun m name =>
        match entries.lookup name with
        | some value => m.print (value ++ stop)
        | none => m.withStatus 1) m

/-- Let time pass. -/
def sleep : Tool :=
  byOptions [] fun o m =>
    match o.operands with
    | [] => misuse "missing operand" m
    | operands =>
      match operands.filter fun text => (Duration.read? text).isNone with
      | [] =>
        let total := operands.foldl (fun n text => n + (Duration.read? text).getD 0) 0
        { m with world := m.world.pass total }
      | wrong =>
        let m := wrong.foldl (fun m text =>
          object ("invalid time interval " ++ Quoting.plain text) m) m
        (m.complain (helpHint m)).withStatus 1

end Tool
end TaskScript
