import TaskScript.Shell.Builtin.Basic

/-!
# Control — builtins that change what is carried out next, or nothing

- `exit`, `return`, `break`, `continue`, `true` and `false`
- `ulimit`, which knows of no limit but one, and what is said of jobs, of which there are none
-/

namespace TaskScript
namespace Shell
namespace Builtin

/-- Do nothing, with a status. -/
def idle (status : Nat) : Builtin := fun _ m => m.withStatus status

/-- Go on in another way with the status that an argument spells, or else another one. -/
def leave (flow : Flow) (usual : Machine → Nat) : Builtin := fun args m =>
  match args with
  | [] => { m with flow, status := usual m }
  | arg :: _ =>
    match number? arg with
    | some status => { m with flow, status }
    | none => giveUp m (notNumber arg)

/-- Leave the shell. -/
def exit : Builtin := leave .leaving fun m => m.held?.getD m.status

/-- Leave the function or the file of commands. -/
def «return» : Builtin := leave .returning Machine.status

/-- Leave loops, or go on with the next round of one. -/
def skip (flow : Nat → Flow) : Builtin := fun args m =>
  let count? : Option Nat := match args with
    | [] => some 1
    | arg :: _ => (number? arg).filter (0 < ·)
  match count? with
  | some count =>
    let loops := min count m.loops
    if loops = 0 then m.withStatus 0 else { m with flow := flow loops, status := 0 }
  | none => giveUp m (notNumber (args.headD ""))

/-- Leave loops. -/
def «break» : Builtin := skip .breaking

/-- Go on with the next round of a loop. -/
def «continue» : Builtin := skip .continuing

/-! ## Limits and jobs -/

/-- Tell a limit. -/
def ulimit : Builtin :=
  withOptions "HStfdscmlpnvwr" fun chosen _ m =>
    let letters := (chosen.map Prod.fst).filter fun c => c != 'H' && c != 'S'
    (m.printLine (if letters.getLast? == some 'c' then "0" else "unlimited")).withStatus 0

/-- There is no job. -/
def noJob : Builtin := fun _ m => giveUp m "No current job"

end Builtin
end Shell
end TaskScript
