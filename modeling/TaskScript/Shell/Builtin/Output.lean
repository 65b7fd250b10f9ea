import TaskScript.Number.Conversion
import TaskScript.Shell.Builtin.Basic
import TaskScript.Text.Escape

/-!
# Output — builtins that print their arguments

`echo` prints them as they are but for escapes, `printf` as a format asks for.
-/

namespace TaskScript
namespace Shell
namespace Builtin

/-- How characters are written in arguments. -/
def argumentEscapes : Escape.Style := ⟨true, false, true⟩

/-- How characters are written in formats. -/
def formatEscapes : Escape.Style := ⟨false, false, false⟩

/-- A text with its escapes resolved, and whether it goes on to its end. -/
def unescaped (text : String) : List Char × Bool :=
  Escape.resolve argumentEscapes (text.length + 1) text.toList

/-- Print the arguments with blanks between them. -/
def echo : Builtin := fun args m =>
  let (isOpen, args) := match args with
    | "-n" :: rest => (true, rest)
    | args => (false, args)
  let (text, goesOn) := unescaped (" ".intercalate args)
  (m.printChars (if goesOn && !isOpen then text ++ ['\n'] else text)).withStatus 0

/-! ## Formats -/

/-- The state of printing by a format: the arguments left, what has been printed, complaints, and
how it ended. -/
structure Printing where
  args : List String
  reversed : List Char
  complaints : List String
  isStopped : Bool
  failure? : Option String

namespace Printing

/-- Print more. -/
def add (p : Printing) (text : List Char) : Printing :=
  { p with reversed := text.reverse ++ p.reversed }

/-- Take the next argument. -/
def next (p : Printing) : Option String × Printing :=
  (p.args.head?, { p with args := p.args.tail })

/-- Complain about an argument. -/
def object (p : Printing) (arg message : String) : Printing :=
  { p with complaints := p.complaints ++ [arg ++ ": " ++ message] }

/-- Complain about what follows the number in an argument, or about the number. -/
def check (p : Printing) (arg : String) (isAny : Bool) (rest : List Char) (isBig : Bool) :
    Printing :=
  if !rest.isEmpty then
    p.object arg (if isAny then "not completely converted" else "expected numeric value")
  else if isBig then p.object arg "Numerical result out of range"
  else p

/-- The code of the character after a quotation mark. -/
def code? (arg : String) : Option Nat :=
  match arg.toList with
  | c :: rest => if c == '"' || c == '\'' then some ((rest.head?.map Char.toNat).getD 0) else none
  | [] => none

/-- The whole number that an argument spells. -/
def integer (p : Printing) (isSigned : Bool) : Int × Printing :=
  match p.next with
  | (none, p) => (0, p)
  | (some arg, p) =>
    match code? arg with
    | some n => (n, p)
    | none =>
      match Numeral.read? none arg.toList with
      | none => (0, p.check arg false arg.toList false)
      | some (n, rest) =>
        let greatest : Int := 18446744073709551615
        let value :=
          if isSigned then Numeral.clamp n
          else if n.natAbs > greatest.natAbs then greatest else n
        (value, p.check arg true rest (value != n))

/-- The number that an argument spells. -/
def real (p : Printing) : Binary × Printing :=
  match p.next with
  | (none, p) => (default, p)
  | (some arg, p) =>
    match code? arg with
    | some n => (.ofRatio .double false n 1, p)
    | none =>
      match Binary.read? .double arg.toList with
      | none => (default, p.check arg false arg.toList false)
      | some (n, rest) =>
        (n, p.check arg true rest (n.isBeyond arg.toList))

/-- Print the next arguments as a conversion asks for. -/
def convert (p : Printing) (pattern : Conversion.Pattern) (kind : Char) : Printing :=
  let (width, p) := if pattern.width == .asked then p.integer true else (0, p)
  let (precision, p) := if pattern.precision == .asked then p.integer true else (0, p)
  let c := Conversion.ofPattern pattern width precision kind
  match kind with
  | 's' =>
    let (arg, p) := p.next
    p.add (c.ofText (arg.getD "")).toList
  | 'b' =>
    let (arg, p) := p.next
    let (text, goesOn) := unescaped (arg.getD "")
    { p.add (c.ofText (String.ofList text)).toList with isStopped := !goesOn }
  | 'c' =>
    let (arg, p) := p.next
    let first := ((arg.getD "").toList.head?).getD '\x00'
    p.add (c.padded (String.singleton first)).toList
  | _ =>
    if kind == 'd' || kind == 'i' then
      let (n, p) := p.integer true
      p.add (c.ofInt n).toList
    else if "ouxX".toList.contains kind then
      let (n, p) := p.integer false
      p.add (c.ofInt n).toList
    else
      let (n, p) := p.real
      p.add (c.ofBinary .double n).toList

end Printing

/-- The letters of the conversions. -/
def conversionKinds : List Char := "sbcdiouxXaAeEfFgG".toList

/-- Print a format once; `steps` is more than its length. -/
def printOnce : Nat → List Char → Printing → Printing
  | 0, _, p => p
  | _ + 1, [], p => p
  | steps + 1, '\\' :: rest, p =>
    match Escape.read formatEscapes rest with
    | .characters found after => printOnce steps after (p.add found)
    | _ => printOnce steps rest (p.add ['\\'])
  | steps + 1, '%' :: '%' :: rest, p => printOnce steps rest (p.add ['%'])
  | steps + 1, '%' :: rest, p =>
    let (pattern, after) := Conversion.read rest
    match after with
    | [] => { p with failure? := some "missing format character" }
    | kind :: after =>
      if conversionKinds.contains kind then
        let p := p.convert pattern kind
        if p.isStopped then p else printOnce steps after p
      else
        let written := '%' :: rest.take (rest.length - after.length)
        { p with failure? := some (String.ofList written ++ ": invalid directive") }
  | steps + 1, c :: rest, p => printOnce steps rest (p.add [c])

/-- Print a format again and again while it takes arguments and there are some. -/
def printAll (format : List Char) : Nat → Printing → Printing
  | 0, p => p
  | uses + 1, p =>
    let after := printOnce (format.length + 1) format p
    if after.isStopped || after.failure?.isSome || after.args.isEmpty ||
        after.args.length == p.args.length then after
    else printAll format uses after

/-- Print arguments as a format asks for, after all complaints. -/
def printf : Builtin :=
  withOptions "" fun _ args m =>
    match args with
    | [] => giveUp m "usage: printf format [arg ...]"
    | format :: args =>
      let p := printAll format.toList (args.length + 1) ⟨args, [], [], false, none⟩
      let m := p.complaints.foldl Machine.warn m
      let m := match p.failure? with
        | some message => giveUp m message
        | none => m.withStatus (if p.complaints.isEmpty then 0 else 1)
      m.printChars p.reversed.reverse

end Builtin
end Shell
end TaskScript
