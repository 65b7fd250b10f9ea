import TaskScript.Tool.Input

/-!
# Neighbours — lines that equal the ones before

`uniq` prints lines without those that equal their neighbours.
-/

namespace TaskScript

open Shell (Machine)

namespace Tool

namespace Repetition

/-- How `uniq` compares and prints lines. -/
structure Style where
  fields : Nat
  chars : Nat
  most? : Option Nat
  folds : Bool
  counts : Bool
  /-- Whether single lines, and the first of repeated ones, are printed. -/
  showsSingle : Bool
  showsRepeated : Bool

/-- Whether a character is a blank between fields. -/
def isBlank (c : Char) : Bool := c == ' ' || c == '\t' || c == '\n'

/-- What a line is compared by. -/
def Style.key (s : Style) (line : List Char) : List Char :=
  let rest := s.fields.fold (fun _ _ line =>
    (line.dropWhile isBlank).dropWhile fun c => !isBlank c) line
  let rest := rest.drop s.chars
  let rest := match s.most? with
    | some n => rest.take n
    | none => rest
  if s.folds then rest.map Char.toLower else rest

/-- Runs of lines that are the same, each with its first line and the others. -/
def runs (key : List Char → List Char) (lines : List (List Char)) :
    List (List Char × List (List Char)) :=
  lines.foldr (fun line runs =>
    match runs with
    | (first, others) :: more =>
      if key line == key first then (line, first :: others) :: more else (line, []) :: runs
    | [] => [(line, [])]) []

/-- A run of lines as it is printed. -/
def Style.run (s : Style) (run : List Char × List (List Char)) : List Char :=
  let isShown := if run.2.isEmpty then s.showsSingle else s.showsRepeated
  let count :=
    if s.counts then (Numeral.padded 7 ' ' (toString (run.2.length + 1)) ++ " ").toList else []
  if isShown then count ++ run.1 ++ ['\n'] else []

end Repetition

/-- Print lines without those that equal their neighbours. -/
def uniq : Tool :=
  byOptions [.flag 'c' "count", .flag 'd' "repeated", .valued 'f' "skip-fields",
      .flag 'i' "ignore-case", .valued 's' "skip-chars", .flag 'u' "unique",
      .valued 'w' "check-chars"] fun o m =>
    let number (key what : String) : Except String Nat :=
      match o.value? key with
      | none => .ok 0
      | some text =>
        match Quantity.natural? "" text with
        | some n => .ok n
        | none => .error (text ++ ": invalid number of " ++ what)
    let numbers := do
      let fields ← number "f" "fields to skip"
      let chars ← number "s" "bytes to skip"
      let most ← number "w" "bytes to compare"
      return (fields, chars, most)
    match numbers with
    | .error message => fail message m
    | .ok (fields, chars, most) =>
      match o.operands.drop 2 with
      | extra :: _ => misuse ("extra operand " ++ Quoting.plain extra) m
      | [] =>
        let style : Repetition.Style :=
          { fields, chars, most? := if o.has "w" then some most else none, folds := o.has "i"
            counts := o.has "c", showsSingle := !o.has "d", showsRepeated := !o.has "u" }
        let name := o.operands.headD "-"
        match openInput name m with
        | .error cause => failOn name cause m
        | .ok (place, m) =>
          match readPlace place m with
          | (.error cause, m) => fail ("error reading " ++ aboutFile name cause) m
          | (.ok text, m) =>
            let runs := Repetition.runs style.key (Lines.read '\n' text).lines
            let written := runs.flatMap style.run
            match o.operands[1]? with
            | none | some "-" => m.printChars written
            | some name =>
              match m.openToWrite (Machine.pathOf name) ⟨true, true, false⟩ false false with
              | .error cause => failOn name cause m
              | .ok (place, m) =>
                match m.world.write place (Octets.bytesOf written) with
                | .ok world => { m with world }
                | .error cause => failOn name cause m

end Tool
end TaskScript
