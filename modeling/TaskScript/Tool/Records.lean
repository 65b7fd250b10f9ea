import TaskScript.Record.Evaluation
import TaskScript.Record.Reader

/-!
# Records — a program applied to the records of inputs

`awk` reads a program from its arguments or from files, and carries it out.
-/

namespace TaskScript

open Shell (Machine)
open Record (Value Cell Table State)

namespace Tool
namespace Records

/-- How the tool is called. -/
def usage : List String :=
  ["Usage: mawk [Options] [Program] [file ...]",
    "",
    "Program:",
    "    The -f option value is the name of a file containing program text.",
    "    If no -f option is given, a \"--\" ends option processing; the following",
    "    parameters are the program text.",
    "",
    "Options:",
    "    -f program-file  Program  text is read from file instead of from the",
    "                     command-line.  Multiple -f options are accepted.",
    "    -F value         sets the field separator, FS, to value.",
    "    -v var=value     assigns value to program variable var.",
    "    --               unambiguous end of options.",
    "",
    "    Implementation-specific options are prefixed with \"-W\".  They can be",
    "    abbreviated:",
    "",
    "    -W version       show version information and exit.",
    "    -W compat        pre-POSIX 2001.",
    "    -W dump          show assembler-like listing of program and exit.",
    "    -W help          show this message and exit.",
    "    -W interactive   set unbuffered output, line-buffered input.",
    "    -W exec file     use file as program as well as last option.",
    "    -W posix         stricter POSIX checking.",
    "    -W random=number set initial random seed.",
    "    -W sprintf=number adjust size of sprintf buffer.",
    "    -W usage         show this message and exit."]

/-- What the options ask for. -/
structure Request where
  separator? : Option String
  assignments : List (String × String)
  files : List String
  operands : List String

/-- Why nothing is done. -/
inductive Refusal
  | complaint (message : String)
  | usage

/-- What the arguments ask for; `steps` is more than their number. -/
def request : Nat → List String → Request → Except Refusal Request
  | 0, _, r => .ok r
  | steps + 1, args, r =>
    match args with
    | [] => .ok r
    | "--" :: rest => .ok { r with operands := rest }
    | arg :: rest =>
      match arg.toList with
      | '-' :: letter :: attached =>
        if "FvfW".toList.contains letter then
          let value? := if attached.isEmpty then rest.head? else some (String.ofList attached)
          let rest := if attached.isEmpty then rest.tail else rest
          match value? with
          | none => .error (.complaint ("option -" ++ String.singleton letter ++ " lacks argument"))
          | some value =>
            if letter == 'F' then request steps rest { r with separator? := some value }
            else if letter == 'f' then request steps rest { r with files := r.files ++ [value] }
            else if letter == 'W' then
              if value.startsWith "h" || value.startsWith "u" then .error .usage
              else request steps rest r
            else
              match Record.Evaluation.assignment? value with
              | some found => request steps rest { r with assignments := r.assignments ++ [found] }
              | none => .error (.complaint ("improper assignment: -v " ++ value))
        else .error (.complaint ("not an option: " ++ arg))
      | _ => .ok { r with operands := args }

/-- The text of the program, and the arguments left for it. -/
def programText (r : Request) (m : Machine) :
    Except Refusal (List Char × List String × Machine) :=
  if r.files.isEmpty then
    match r.operands with
    | [] => .error .usage
    | text :: rest => .ok (text.toList, rest, m)
  else
    (r.files.foldlM (fun (text, m) name =>
      match readInput name m with
      | (.ok more, m) => Except.ok (text ++ more, m)
      | (.error cause, _) =>
        .error (Refusal.complaint ("cannot open \"" ++ name ++ "\" (" ++ cause.reason ++ ")")))
      (([] : List Char), m)).map fun (text, m) => (text, r.operands, m)

/-- The names that every program has, with their values. -/
def names : List (String × Value) :=
  [("NR", .number 0), ("FNR", .number 0), ("FS", .text " "), ("OFS", .text " "),
    ("ORS", .text "\n"), ("RS", .text "\n"), ("SUBSEP", .text "\x1c"), ("CONVFMT", .text "%.6g"),
    ("OFMT", .text "%.6g"), ("FILENAME", .text "")]

/-- The state in which a program begins. -/
def begun (launch : Launch) (p : Record.Program) (args : List String) (r : Request) (m : Machine) :
    State :=
  let arguments := Table.empty.insert (.number 0) (.text m.name)
  let (arguments, count) := args.foldl (fun ((t, n) : Table × Nat) arg =>
    (t.insert (.number n) (.input arg), n + 1)) (arguments, 1)
  let environment := m.environment.entries.foldl (fun (t : Table) (name, value) =>
    t.insert (.text name) (.input value)) Table.empty
  let values := names ++ [("ARGC", Value.ofNat count)] ++
    (r.separator?.map fun text =>
      ("FS", Value.text (String.ofList (Record.unescaped (text.length + 1) text.toList)))).toList ++
    r.assignments.map fun (name, value) => (name, Value.input value)
  let cells := values.map (fun (name, v) => (name, Cell.value v)) ++
    [("ARGV", .table 0), ("ENVIRON", .table 1)]
  { machine := m, launch
    routines := .ofList (p.routines.map fun routine => (routine.name, routine))
    globals := .ofList cells, locals := [], tables := #[arguments, environment], record := .text ""
    fields := #[], rest? := none, isBeginning := false, argument := 1, hasInput := false, isOver := false, inputs := []
    outputs := [], waiting := [], ranges := Array.replicate p.rules.length false
    chance := .ofSeed 1, seed := .number 0, status := 0, patterns := {} }

/-- Where a fault arose. -/
def whereabouts (s : State) : String :=
  let text (name : String) : String :=
    (Record.Evaluation.globalValue s name).toText "%.6g"
  "\tFILENAME=\"" ++ text "FILENAME" ++ "\" FNR=" ++ text "FNR" ++ " NR=" ++ text "NR"

/-- Carry out a program. -/
def perform (s : State) (p : Record.Program) : Machine :=
  let (outcome, s) := ExceptT.run (Record.Evaluation.run p) s
  let failed (message : String) : State :=
    { s with machine := object message s.machine, status := 2 }
  let s := match outcome with
    | .error (.fault message) => failed ("run time error: " ++ message ++ "\n" ++ whereabouts s)
    | .error (.refusal message) => failed message
    | _ => s
  let (_, s) := ExceptT.run Record.Evaluation.closeAll s
  s.machine.withStatus s.status

end Records

/-- Carry out a program on the records of inputs. -/
def awk (launch : Launch) : Tool := fun args m =>
  let found := do
    let r ← Records.request (args.length + 1) args ⟨none, [], [], []⟩
    let (text, args, m) ← Records.programText r m
    return (r, text, args, m)
  match found with
  | .error (.complaint message) => failWith 2 message m
  | .error .usage => Records.usage.foldl Machine.complain m
  | .ok (r, text, args, m) =>
    match Record.read text with
    | .error complaints =>
      let file := match r.files.getLast? with
        | some name => name ++ ": "
        | none => ""
      (complaints.foldl (fun m message => object (file ++ message) m) m).withStatus 2
    | .ok p => Records.perform (Records.begun launch p args r m) p

end Tool
end TaskScript
