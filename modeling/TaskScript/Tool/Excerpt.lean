import TaskScript.Tool.Input

/-!
# Excerpt — tools that print the start or the end of inputs

- `head` : the first lines or bytes, or all but the last ones
- `tail` : the last lines or bytes, or all from one on
-/

namespace TaskScript

open Shell (Machine)

namespace Tool
namespace Excerpt

/-- What is printed of an input. -/
structure Part where
  /-- Whether bytes are counted, and not lines. -/
  bytes : Bool
  /-- Whether the count is one of what is left out: the end for `head`, the start for `tail`. -/
  isRest : Bool
  count : Nat
  /-- What lines end with. -/
  separator : Char
  deriving DecidableEq, Repr

namespace Part

/-- The first so many lines of a text: how many bytes they have. -/
def lineBytes (separator : Char) : Nat → List Char → Nat → Nat
  | 0, _, size => size
  | _, [], size => size
  | count + 1, c :: rest, size =>
    if c == separator then lineBytes separator count rest (size + 1)
    else lineBytes separator (count + 1) rest (size + 1)

/-- How many bytes are printed from the start of a text. -/
def headSize (p : Part) (text : List Char) : Nat :=
  let count :=
    if !p.isRest then p.count
    else if p.bytes then text.length - p.count
    else (Lines.read p.separator text).lines.length - p.count
  if p.bytes then min count text.length else lineBytes p.separator count text 0

/-- What is printed from the end of a text. -/
def tail (p : Part) (text : List Char) : List Char :=
  let skipped :=
    if p.isRest then p.count - 1
    else if p.bytes then text.length - p.count
    else (Lines.read p.separator text).lines.length - p.count
  text.drop (if p.bytes then skipped else lineBytes p.separator skipped text 0)

end Part

/-- How a tool that prints excerpts was called. -/
structure Call where
  part : Part
  quiet : Bool
  verbose : Bool
  names : List String

/-- The text that stands before an excerpt. -/
def header (isFirst : Bool) (name : String) : String :=
  (if isFirst then "" else "\n") ++ "==> " ++ (if name == "-" then "standard input" else name) ++
    " <==\n"

/-- Print an excerpt of each input. -/
def each (call : Call) (print : Nat → Machine → Except SystemError Unit × Machine) (m : Machine) :
    Machine :=
  let names := orStandard call.names
  let hasHeaders := !call.quiet && (call.verbose || 1 < names.length)
  (names.foldl (fun (isFirst, m) name =>
    match openInput name m with
    | .error cause =>
      (isFirst, fail ("cannot open " ++ Quoting.always name ++ " for reading: " ++
        cause.reason) m)
    | .ok (place, m) =>
      let m := if hasHeaders then m.print (header isFirst name) else m
      match print place m with
      | (.ok _, m) => (false, m)
      | (.error cause, m) =>
        let shown := if name == "-" then "standard input" else name
        (false, fail ("error reading " ++ aboutFile shown cause) m)) (true, m)).2

/-- The options that both tools have. -/
def choices : List Options.Choice :=
  [.valued 'n' "lines", .valued 'c' "bytes", .flag 'q' "quiet", .synonym "q" "silent" .nothing,
    .flag 'v' "verbose", .flag 'z' "zero-terminated"]

/-- The call that options describe; `sign` stands before a count of what is left out. -/
def callOf (sign : Char) (o : Options.Reading) : Except String Call :=
  let key := (o.last? ["n", "c"]).getD "n"
  let text := (o.value? key).getD "10"
  let isRest := text.toList.head? == some sign
  let number := match text.toList with
    | '-' :: rest => String.ofList rest
    | _ => text
  let what := "invalid number of " ++ if key == "c" then "bytes" else "lines"
  match Quantity.counted what Quantity.usualLetters 0 Quantity.greatest number with
  | .error message => .error message
  | .ok count =>
    .ok { part := ⟨key == "c", isRest, count, if o.has "z" then '\x00' else '\n'⟩
          quiet := o.last? ["q", "v"] == some "q"
          verbose := o.last? ["q", "v"] == some "v"
          names := o.operands }

/-- Whether what is at a place can be read again from another position. -/
def isSeekable (place : Nat) (m : Machine) : Bool :=
  match m.world.files[place]? with
  | some ⟨.file _, _, _, _, _⟩ => true
  | _ => false

/-- How much is read at once from what cannot be read again. -/
def blockSize : Nat := 8192

/-- Print the start of what is at a place, and leave the rest to others where that is possible. -/
def printHead (p : Part) (place : Nat) (m : Machine) : Except SystemError Unit × Machine :=
  let most? := if p.bytes && !p.isRest then some p.count else none
  match m.world.availableUpTo place most? with
  | .error cause => (.error cause, m)
  | .ok bytes =>
    let chars := Octets.charsOf bytes
    let size := p.headSize chars
    let blocks := (size + blockSize - 1) / blockSize * blockSize
    let used :=
      if isSeekable place m || (p.bytes && !p.isRest) then size
      else if p.isRest then bytes.size
      else if p.count = 0 then 0
      else min bytes.size (max blocks blockSize)
    let m := m.printChars (chars.take size)
    (.ok (), { m with world := m.world.advance place used })

/-- Print the end of what is at a place. -/
def printTail (p : Part) (place : Nat) (m : Machine) : Except SystemError Unit × Machine :=
  match readPlace place m with
  | (.error cause, m) => (.error cause, m)
  | (.ok chars, m) => (.ok (), m.printChars (p.tail chars))

end Excerpt

/-- Digits and letters after a hyphen, as options. -/
def oldCount (arg : String) : Option (Except Char (List String)) :=
  match arg.toList with
  | '-' :: c :: rest =>
    if !c.isDigit then none
    else
      let (digits, letters) := Numeral.digits 10 (c :: rest)
      let sizes := letters.filter ("bkm".toList.contains ·)
      match letters.find? fun c => !"cbklmqvz".toList.contains c with
      | some c => some (.error c)
      | none =>
        let count := String.ofList (digits ++ sizes.take 1)
        let kind := if letters.contains 'c' || !sizes.isEmpty then "-c" else "-n"
        let others := letters.filter ("qvz".toList.contains ·)
        some (.ok ([kind, count] ++ others.map fun c => "-" ++ String.singleton c))
  | _ => none

/-- Print the start of inputs. -/
def head : Tool := fun args m =>
  let run (args : List String) : Machine :=
    byOptions Excerpt.choices (fun o m =>
      match Excerpt.callOf '-' o with
      | .error message => fail message m
      | .ok call => Excerpt.each call (Excerpt.printHead call.part) m) args m
  match args with
  | first :: rest =>
    match oldCount first with
    | some (.ok options) => run (options ++ rest)
    | some (.error c) => misuse ("invalid trailing option -- " ++ String.singleton c) m
    | none => run args
  | [] => run args

/-- The old way of telling a count to `tail`, as options. -/
def oldTail (args : List String) : List String :=
  match args with
  | first :: rest =>
    match first.toList with
    | sign :: text =>
      let (digits, letters) := Numeral.digits 10 text
      let isOld := (sign == '+' || (sign == '-' && !digits.isEmpty)) &&
        rest.length ≤ 1 && ["", "c", "l", "b", "f"].contains (String.ofList letters)
      if isOld && !(sign == '+' && digits.isEmpty && letters.isEmpty) then
        let count := if digits.isEmpty then "10" else String.ofList digits
        let block := if letters == ['b'] then "b" else ""
        (if letters == ['c'] || letters == ['b'] then "-c" else "-n") ::
          (String.singleton sign ++ count ++ block) :: rest
      else args
    | [] => args
  | [] => args

/-- Print the end of inputs. -/
def tail : Tool := fun args m =>
  byOptions (Excerpt.choices ++ [⟨"f", some 'f', none, .nothing⟩,
      .synonym "f" "follow" (.perhapsWord ⟨"--follow", [["descriptor"], ["name"]]⟩),
      ⟨"F", some 'F', none, .nothing⟩, .named "retry", .namedValue "pid", .valued 's' "sleep-interval"]) (fun o m =>
    match Excerpt.callOf '+' o with
    | .error message => fail message m
    | .ok call =>
      let m := if o.has "retry" && !o.has "f" && !o.has "F" then
          object "warning: --retry ignored; --retry is useful only when following" m
        else m
      let m := if o.has "pid" && !o.has "f" && !o.has "F" then
          object "warning: PID ignored; --pid=PID is useful only when following" m
        else m
      if call.part.count = 0 && !call.part.isRest then m
      else Excerpt.each call (Excerpt.printTail call.part) m) (oldTail args) m

end Tool
end TaskScript
