import TaskScript.Tool.Input

/-!
# Naming — the parts of names

- `basename` : the last part of a path, perhaps without an ending
- `dirname`  : what stands before the last part
-/

namespace TaskScript

open Shell (Machine)

namespace Tool
namespace Naming

/-- A path in reverse without slashes at its end. -/
def trimmed (reversed : List Char) : List Char := reversed.dropWhile (· == '/')

/-- The last part of a path. -/
def last (path : String) : String :=
  let part := (trimmed path.toList.reverse).takeWhile (· != '/')
  if part.isEmpty && !path.isEmpty then "/" else String.ofList part.reverse

/-- A name without an ending, unless there is nothing else in it. -/
def withoutEnding (ending name : String) : String :=
  if name.endsWith ending && name != ending then
    String.ofList (name.toList.take (name.length - ending.length))
  else name

/-- What stands before the last part of a path. -/
def before (path : String) : String :=
  let rest := (trimmed path.toList.reverse).dropWhile (· != '/')
  let found := trimmed rest
  if !found.isEmpty then String.ofList found.reverse
  else if path.startsWith "/" then "/"
  else "."

end Naming

/-- Print the last parts of paths. -/
def basename : Tool :=
  byOptionsAt 1 true [.flag 'a' "multiple", .valued 's' "suffix", .flag 'z' "zero"] fun o m =>
    let stop := if o.has "z" then "\x00" else "\n"
    let print (ending : String) (m : Machine) (path : String) : Machine :=
      m.print (Naming.withoutEnding ending (Naming.last path) ++ stop)
    match o.operands with
    | [] => misuse "missing operand" m
    | path :: rest =>
      if o.has "a" || o.has "s" then
        (path :: rest).foldl (print ((o.value? "s").getD "")) m
      else
        match rest with
        | [] => print "" m path
        | [ending] => print ending m path
        | _ :: extra :: _ => misuse ("extra operand " ++ Quoting.plain extra) m

/-- Print what stands before the last parts of paths. -/
def dirname : Tool :=
  byOptionsAt 1 true [.flag 'z' "zero"] fun o m =>
    if o.operands.isEmpty then misuse "missing operand" m
    else
      let stop := if o.has "z" then "\x00" else "\n"
      o.operands.foldl (fun m path => m.print (Naming.before path ++ stop)) m

end Tool
end TaskScript
