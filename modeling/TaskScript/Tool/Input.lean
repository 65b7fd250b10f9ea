import TaskScript.Tool.Options
import TaskScript.Tool.Quantity

/-!
# Input — what tools read

- `openInput`, `readInput` : inputs by their names; a hyphen stands for the standard input
- `Lines`                  : a text as lines, of which the last may be open
-/

namespace TaskScript

open Shell (Machine)

namespace Tool

/-- Open an input, and give its place. -/
def openInput (name : String) (m : Machine) : Except SystemError (Nat × Machine) :=
  if name == "-" then
    match m.place? 0 with
    | some place => .ok (place, m)
    | none => .error .badDescriptor
  else m.openToRead (Machine.pathOf name)

/-- Read what is left at a place. -/
def readPlace (place : Nat) (m : Machine) : Except SystemError (List Char) × Machine :=
  match m.world.available place with
  | .ok bytes =>
    (.ok (Octets.charsOf bytes), { m with world := m.world.advance place bytes.size })
  | .error e => (.error e, m)

/-- Read a whole input. -/
def readInput (name : String) (m : Machine) : Except SystemError (List Char) × Machine :=
  match openInput name m with
  | .ok (place, m) => readPlace place m
  | .error e => (.error e, m)

/-- The standard input as the only one where none is named. -/
def orStandard (names : List String) : List String := if names.isEmpty then ["-"] else names

/-- Complain about an input that cannot be read, by its name and a cause, and fail. -/
def failOn (name : String) (cause : SystemError) (m : Machine) : Machine :=
  fail (Quoting.needed name ++ ": " ++ cause.reason) m

/-- What all inputs hold together; complaints are made about those that cannot be read. -/
def readInputs (names : List String) (m : Machine) : List Char × Machine :=
  let (pieces, m) := (orStandard names).foldl (fun (pieces, m) name =>
    match readInput name m with
    | (.ok chars, m) => (chars :: pieces, m)
    | (.error cause, m) => (pieces, failOn name cause m)) (([] : List (List Char)), m)
  (pieces.reverse.flatten, m)

/-- The wording of a cause, with the name of what it is about. -/
def aboutFile (name : String) (cause : SystemError) : String :=
  Quoting.always name ++ ": " ++ cause.reason

/-! ## Lines -/

/-- A text as lines, of which the last may be open. -/
structure Lines where
  lines : List (List Char)
  isOpen : Bool

namespace Lines

/-- The parts of a text between separators. -/
def parts (separator : Char) (text : List Char) : List (List Char) :=
  let (first, others) := text.foldr (fun c (part, others) =>
    if c == separator then ([], part :: others) else (c :: part, others)) ([], [])
  first :: others

/-- The lines of a text; they end with a separator. -/
def read (separator : Char) (text : List Char) : Lines :=
  let all := parts separator text
  if (all.getLast?.getD []).isEmpty then ⟨all.dropLast, false⟩ else ⟨all, true⟩

/-- Lines as a text, each of them ended by a separator. -/
def joined (separator : Char) (lines : List (List Char)) : List Char :=
  lines.flatMap fun line => line ++ [separator]

/-- The same text again. -/
def text (l : Lines) (separator : Char) : List Char :=
  let all := joined separator l.lines
  if l.isOpen then all.dropLast else all

end Lines

end Tool
end TaskScript
