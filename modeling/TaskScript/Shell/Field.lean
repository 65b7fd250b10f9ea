import TaskScript.Shell.Wildcard

/-!
# Field — expanded words cut into fields

- `Mark`       : a part of an expanded word
- `Field.cut`  : the fields of an expanded word
- `Field.some` : at most so many fields of a line, the last of which takes the rest

Words are cut at separators that come from expansions outside quotes.  Blanks among the separators
count for nothing at either end and together with one other separator; each further separator ends
a field, even an empty one.
-/

namespace TaskScript
namespace Shell

/-- A part of an expanded word. -/
inductive Mark
  /-- A character. -/
  | glyph (g : Glyph)
  /-- A character that comes from an expansion outside quotes. -/
  | loose (c : Char)
  /-- Something is there even if it is empty. -/
  | quotes
  /-- A new field begins. -/
  | cut
  /-- A blank that separates whatever the separators are. -/
  | gap
  deriving DecidableEq, Repr

namespace Mark

/-- The character of a mark. -/
def char? : Mark → Option Char
  | glyph g => some g.char
  | loose c => some c
  | quotes => none
  | cut | gap => some ' '

/-- The character of a mark as a pattern sees it. -/
def glyph? : Mark → Option Glyph
  | glyph g => some g
  | loose c => some ⟨c, false⟩
  | quotes => none
  | cut | gap => some ⟨' ', false⟩

end Mark

namespace Field

/-- Whether a separator is one of the blanks that count for nothing at either end. -/
def isBlank (c : Char) : Bool := c == ' ' || c == '\t' || c == '\n'

/-- Where the cutting of a word stands. -/
structure Cutting where
  /-- The fields that are complete, the last one first. -/
  fields : List (List Glyph)
  /-- The field being read, its last character first; absent if nothing belongs to it yet. -/
  current : Option (List Glyph)
  /-- Whether blanks ended the last field, so that one other separator belongs to them. -/
  afterBlank : Bool

namespace Cutting

/-- Complete a field. -/
def close (s : Cutting) (field : List Glyph) (afterBlank : Bool) : Cutting :=
  ⟨field.reverse :: s.fields, none, afterBlank⟩

/-- Add something to the field being read. -/
def add (s : Cutting) (glyphs : List Glyph) : Cutting :=
  ⟨s.fields, some (glyphs ++ s.current.getD []), false⟩

/-- Meet a blank that separates. -/
def blank (s : Cutting) : Cutting :=
  match s.current with
  | some field => s.close field true
  | none => s

/-- Meet a mark. -/
def step (separators : List Char) (s : Cutting) : Mark → Cutting
  | .glyph g => s.add [g]
  | .quotes => s.add []
  | .cut => { s.close (s.current.getD []) false with current := some [] }
  | .gap => s.blank
  | .loose c =>
    if !separators.contains c then s.add [⟨c, false⟩]
    else if isBlank c then s.blank
    else if s.afterBlank && s.current.isNone then { s with afterBlank := false }
    else s.close (s.current.getD []) false

/-- The fields in order. -/
def finish (s : Cutting) : List (List Glyph) :=
  match s.current with
  | some field => (field.reverse :: s.fields).reverse
  | none => s.fields.reverse

end Cutting

/-- The fields of an expanded word. -/
def cut (separators : List Char) (marks : List Mark) : List (List Glyph) :=
  (marks.foldl (Cutting.step separators) ⟨[], none, false⟩).finish

/-! ## Lines -/

/-- A character of a line, and whether it was escaped. -/
abbrev Input := Char × Bool

/-- The marks of a line. -/
def marksOf (line : List Input) : List Mark :=
  line.map fun c => if c.2 then .glyph ⟨c.1, true⟩ else .loose c.1

/-- A line without blanks at its beginning. -/
def trimmed (separators : List Char) (line : List Input) : List Input :=
  line.dropWhile fun c => !c.2 && isBlank c.1 && separators.contains c.1

/-- The text of a line. -/
def textOf (line : List Input) : String := String.ofList (line.map Prod.fst)

/-- The first field of a line, and what follows its separator. -/
def first (separators : List Char) (line : List Input) : List Input × List Input :=
  let separates (c : Input) : Bool := !c.2 && separators.contains c.1
  let line := trimmed separators line
  let field := line.takeWhile fun c => !separates c
  let after := line.drop field.length
  let rest := trimmed separators after
  match rest with
  | c :: more =>
    if separates c then (field, trimmed separators more) else (field, rest)
  | [] => (field, [])

/-- The fields of a line, so many of them; the last one takes the rest, and those that are missing
are empty. -/
def «some» (separators : List Char) : Nat → List Input → List String
  | 0, _ => []
  | 1, line =>
    let line := trimmed separators line
    match cut separators (marksOf line) with
    | [] => [""]
    | [field] => [String.ofList (field.map Glyph.char)]
    | _ => [textOf (trimmed separators line.reverse).reverse]
  | count + 2, line =>
    let found := first separators line
    textOf found.1 :: «some» separators (count + 1) found.2

end Field
end Shell
end TaskScript
