import TaskScript.Editor.Evaluation
import TaskScript.Editor.Reader
import TaskScript.Tool.Walk

/-!
# Editing — a script applied to inputs

`sed` reads a script from its arguments or from files, applies it to the lines of its inputs, and
prints the result or puts it back in place.
-/

namespace TaskScript

open Shell (Machine)
open Editor (Editing)

namespace Tool
namespace Edit

/-- Tell how the tool is called, and fail. -/
def misused (m : Machine) : Machine :=
  (m.complain ("Usage: " ++ m.name ++
    " [OPTION]... \x7bscript-only-if-no-other-script\x7d [input-file]...")).withStatus 1

/-- The options of the tool. -/
def choices : List Options.Choice :=
  [.flag 'E' "regexp-extended", ⟨"E", some 'r', none, .nothing⟩, .optional 'i' "in-place",
    .valued 'l' "line-length", .flag 'n' "quiet", .synonym "n" "silent" .nothing,
    .flag 's' "separate", .flag 'u' "unbuffered", .flag 'z' "null-data",
    .valued 'e' "expression", .valued 'f' "file"]

/-- The pieces of the script that options give, or a complaint. -/
def partsOf (o : Options.Reading) (m : Machine) :
    Except String (List Editor.Part × Nat × Machine) :=
  o.found.foldlM (fun (parts, number, m) option =>
    if option.1 == "e" then
      .ok (parts ++ [⟨.argument (number + 1), option.2.toList⟩], number + 1, m)
    else if option.1 == "f" then
      match readInput option.2 m with
      | (.ok chars, m) => .ok (parts ++ [⟨.file option.2, chars⟩], number, m)
      | (.error cause, _) =>
        .error ("couldn't open file " ++ option.2 ++ ": " ++ cause.reason)
    else .ok (parts, number, m)) (([] : List Editor.Part), 0, m)

/-- The names of the files that a script writes. -/
def outputs (script : Editor.Script) : List String :=
  (script.commands.toList.filterMap fun c =>
    match c.action with
    | .write name | .writeFirst name => some name
    | .substitute s => s.file?
    | _ => none).eraseDups

/-- Open the files that a script writes. -/
def openOutputs (names : List String) (m : Machine) :
    Except String (List (String × Nat × Bool) × Machine) :=
  names.foldlM (fun (sinks, m) name =>
    if name == "/dev/stdout" then .ok (sinks, m)
    else
      match m.openToWrite (Machine.pathOf name) ⟨true, true, false⟩ false false with
      | .ok (place, m) => .ok (sinks ++ [(name, place, false)], m)
      | .error cause => .error ("couldn't open file " ++ name ++ ": " ++ cause.reason))
    (([] : List (String × Nat × Bool)), m)

/-- The lines of an input. -/
def linesOf (stop : Char) (name : String) (chars : List Char) : List Editor.Line :=
  let all := Lines.read stop chars
  let count := all.lines.length
  let (reversed, _) := all.lines.zipIdx.foldl (fun (reversed, consumed) (text, index) =>
    let isEnded := index + 1 < count || !all.isOpen
    let consumed := if name == "-" then consumed + text.length + (if isEnded then 1 else 0) else 0
    (⟨text, isEnded, name, consumed⟩ :: reversed, consumed)) (([] : List Editor.Line), 0)
  reversed.reverse

/-- What an input holds; the standard input is only looked at. -/
def contentOf (name : String) (m : Machine) : Except SystemError (List Char) × Machine :=
  if name == "-" then
    match m.place? 0 with
    | none => (.error .badDescriptor, m)
    | some place => ((m.world.available place).map Octets.charsOf, m)
  else readInput name m

/-- The inputs with their lines; complaints are made about those that cannot be read, and one that
is a directory ends it all. -/
def inputsOf (inPlace : Bool) (stop : Char) (names : List String) (m : Machine) :
    List (String × List Editor.Line) × Bool × Machine :=
  names.foldl (fun (inputs, isOver, m) name =>
    if isOver then (inputs, isOver, m)
    else
      let isAgain := name == "-" && inputs.any fun i => i.1 == "-"
      match if isAgain then (.ok [], m) else contentOf name m with
      | (.ok chars, m) => (inputs ++ [(name, linesOf stop name chars)], false, m)
      | (.error .isDirectory, m) =>
        if inPlace then
          (inputs, false, failWith 4 ("couldn't edit " ++ name ++ ": not a regular file") m)
        else (inputs, true, failWith 4 ("read error on " ++ name ++ ": Is a directory") m)
      | (.error cause, m) =>
        (inputs, false, failWith 2 ("can't read " ++ name ++ ": " ++ cause.reason) m))
    (([] : List (String × List Editor.Line)), false, m)

/-- The name under which a file is kept when it is edited. -/
def keptName (ending path : String) : String :=
  let directory := String.ofList (path.toList.take (path.length - (Walk.lastPart path).length))
  let base := Walk.lastPart path
  let name := if ending.toList.contains '*' then
      String.join (ending.toList.map fun c => if c == '*' then base else String.singleton c)
    else base ++ ending
  if name.toList.contains '/' then name else directory ++ name

/-- Put what a file has become in its place; the file itself may be kept under another name. -/
def putBack (ending path : String) (chars : List Char) (m : Machine) : Machine :=
  match m.store.lookupLink (Machine.pathOf path) with
  | .error _ => m
  | .ok (location, _) =>
    let mode := match m.store.lookup (Machine.pathOf path) with
      | .ok (_, .file number) => (m.store.bodyOf number).mode
      | _ => Store.plainMode
    let m := if ending.isEmpty then m
      else
        let kept := Machine.pathOf (keptName ending path)
        m.withStore ((m.store.rename (Machine.pathOf path) kept).toOption.getD m.store)
    m.withStore (m.store.putFile location ⟨Octets.bytesOf chars, mode, m.store.now⟩)

/-- How much is read at once from what cannot be read again. -/
def blockSize : Nat := 4096

/-- Go on in the standard input where lines have been read up to, if it can be read again or has
been read `exactly`. -/
def settleInput (exactly : Bool) (consumed? : Option Nat) (m : Machine) : Machine :=
  match m.place? 0 with
  | none => m
  | some place =>
    let all := match m.world.available place with
      | .ok bytes => bytes.size
      | .error _ => 0
    let isFile := match (m.world.files[place]?).map Shell.OpenFile.channel with
      | some (.file _) => true
      | _ => false
    let count := match consumed? with
      | some n =>
        if isFile || exactly then n else min all ((n + blockSize - 1) / blockSize * blockSize)
      | none => all
    { m with world := m.world.advance place count }

/-- Apply a script to inputs, one after the other where they are separate. -/
def apply (o : Options.Reading) (isSeparate : Bool) (e : Editing)
    (groups : List (String × List Editor.Line)) : Option Nat × Editing :=
  groups.foldl (fun (status?, e) (name, lines) =>
    if status?.isSome || e.problem?.isSome then (status?, e)
    else
      let inPlace := o.has "i" && isSeparate && name != "-"
      let e := if inPlace then { e with edited? := some [], isOpen := false } else e
      let (status?, e) := e.run lines
      match e.edited? with
      | some found =>
        let text := found.reverse.flatten
        let e := { e with edited? := none, isOpen := false }
        (status?, { e with machine := putBack ((o.value? "i").getD "") name text e.machine })
      | none => (status?, e)) (none, e)

/-- Read a script and apply it. -/
def perform (o : Options.Reading) (parts : List Editor.Part) (names : List String) (m : Machine) :
    Machine :=
  match Editor.read (o.has "E") parts with
  | .error (.malformed complaint) => fail complaint m
  | .error problem => failWith 4 problem.message m
  | .ok script =>
    match openOutputs (outputs script) m with
    | .error message => failWith 4 message m
    | .ok (sinks, m) =>
      if o.has "i" && names.isEmpty then failWith 4 "no input files" m
      else
        let stop := if o.has "z" then '\x00' else '\n'
        let (inputs, _, m) := inputsOf (o.has "i") stop (orStandard names) m
        let isSeparate := o.has "s" || o.has "i"
        let groups := if isSeparate then inputs else [("", inputs.flatMap Prod.snd)]
        let status := m.status
        let width := ((o.value? "l").bind Numeral.natural?).getD (if o.has "l" then 0 else 70)
        let editing : Editing :=
          { machine := m, commands := script.commands, isSilent := o.has "n" || script.isSilent
            stop, width, rest := [], pattern := [], isEnded := true, hold := [], isHoldEnded := true
            number := 0, file := "-", consumed := 0, ranges := #[], isReplaced := false
            lastPattern? := none, queue := [], edited? := none, isOpen := false, sinks
            readers := [], problem? := none }
        let (status?, e) := apply o isSeparate editing groups
        let m := if inputs.any fun i => i.1 == "-" then
            settleInput (o.has "u") (status?.map fun _ => e.consumed) e.machine
          else e.machine
        match e.problem? with
        | some message => fail message m
        | none =>
          match status? with
          | some s => m.withStatus (if s = 0 then status else s)
          | none => m.withStatus status

end Edit

/-- Edit lines as a script says. -/
def sed : Tool := fun args m =>
  let o := Options.read Edit.choices (m.value? "POSIXLY_CORRECT").isSome args
  match o.fault? with
  | some fault => Edit.misused (object fault.message m)
  | none =>
    match Edit.partsOf o m with
    | .error message => failWith 4 message m
    | .ok ([], _, m) =>
      match o.operands with
      | [] => Edit.misused m
      | script :: names => Edit.perform o [⟨.argument 1, script.toList⟩] names m
    | .ok (parts, _, m) => Edit.perform o parts o.operands m

end Tool
end TaskScript
