import TaskScript.CommandLine.Parser
import TaskScript.CommandLine.Report
import TaskScript.EnvFile.Loading
import TaskScript.Yaml.Document

/-!
# Standard — the packages with which the program is run

- `EnvFault.answer` : what the program gets to see of a fault in an environment file
- `stylesTags`      : whether tags are styled
- `Packages.standard` : all of them
-/

namespace TaskScript

/-- What comes of a fault in an environment file: a complaint, followed by its cause, or a panic. -/
def EnvFault.answer : EnvFault → EnvLoad
  | unreadable cause => .failed (cause.text ++ ": " ++ cause.text)
  | malformed text place =>
    .failed ("Error parsing line: '" ++ text ++ "', error at line index: " ++ toString place)
  | unassignable _ _ => .panicked

/-- Whether tags are styled: always if that is forced, never if colours are unwanted, and otherwise
on a terminal unless that is switched off. -/
def stylesTags (environment : Bindings String) (terminal : Bool) : Bool :=
  let isOn (name : String) : Option Bool := (environment.get? name).map (· != "0")
  if isOn "CLICOLOR_FORCE" = some true then true
  else if (isOn "NO_COLOR").isSome then false
  else (isOn "CLICOLOR").getD true && terminal

/-- The packages with which the program is run. -/
def Packages.standard : Packages :=
  { parse := CommandLine.read
    loadEnv := fun store path environment =>
      match EnvFile.load store path environment with
      | .ok environment => .loaded environment
      | .error fault => fault.answer
    toYaml := fun tree => .ok tree.render
    styles := stylesTags }

end TaskScript
