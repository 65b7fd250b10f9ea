import TaskScript.Text.Bytes

/-!
# Regular — regular expressions

- `Regular.Set` : sets of characters, as ranges
- `Regular`     : what a regular expression is built from

All characters are octets, and only ASCII letters have a case.
-/

namespace TaskScript
namespace Regular

/-- A set of characters: those of some ranges, or all others. -/
structure Set where
  isNegated : Bool
  ranges : List (Char × Char)
  deriving DecidableEq, Repr

namespace Set

/-- Whether a set holds a character. -/
def holds (s : Set) (c : Char) : Bool := s.ranges.any (fun r => r.1 ≤ c && c ≤ r.2) != s.isNegated

/-- The set of one character. -/
def single (c : Char) : Set := ⟨false, [(c, c)]⟩

/-- The set of all characters. -/
def all : Set := ⟨true, []⟩

/-- All characters that a set does not hold. -/
def others (s : Set) : Set := { s with isNegated := !s.isNegated }

/-- The other case of a letter. -/
def otherCase (c : Char) : Char := if c.isUpper then c.toLower else c.toUpper

/-- The letters of a range in their other case. -/
def folded (range : Char × Char) : List (Char × Char) :=
  let part (first last : Char) : List (Char × Char) :=
    let low := if range.1 ≤ first then first else range.1
    let high := if last ≤ range.2 then last else range.2
    if low ≤ high then [(otherCase low, otherCase high)] else []
  part 'A' 'Z' ++ part 'a' 'z'

/-- The same without regard to the case of letters. -/
def fold (s : Set) : Set := { s with ranges := s.ranges ++ s.ranges.flatMap folded }

/-- The classes of characters, by name. -/
def classes : List (String × List (Char × Char)) :=
  [("alpha", [('A', 'Z'), ('a', 'z')]), ("digit", [('0', '9')]),
    ("alnum", [('0', '9'), ('A', 'Z'), ('a', 'z')]), ("upper", [('A', 'Z')]),
    ("lower", [('a', 'z')]), ("space", [('\t', '\r'), (' ', ' ')]),
    ("blank", [(' ', ' '), ('\t', '\t')]), ("punct", [('!', '/'), (':', '@'), ('[', '\x60'),
    ('\x7b', '~')]), ("print", [(' ', '~')]), ("graph", [('!', '~')]),
    ("cntrl", [('\x00', '\x1f'), ('\x7f', '\x7f')]),
    ("xdigit", [('0', '9'), ('A', 'F'), ('a', 'f')])]

/-- The set of a class. -/
def ofClass (name : String) : Set := ⟨false, (classes.lookup name).getD []⟩

/-- The characters that words consist of. -/
def word : Set := ⟨false, ('_', '_') :: (ofClass "alnum").ranges⟩

end Set

/-- A place between characters. -/
inductive Place
  /-- The start of a line. -/
  | lineStart
  /-- The end of a line. -/
  | lineEnd
  /-- The start of the text. -/
  | start
  /-- The end of the text. -/
  | finish
  | wordStart
  | wordEnd
  /-- The start or the end of a word. -/
  | wordEdge
  /-- Neither the start nor the end of a word. -/
  | noWordEdge
  deriving DecidableEq, Repr

end Regular

/-- A regular expression. -/
inductive Regular
  | empty
  | one (set : Regular.Set)
  | at (place : Regular.Place)
  /-- A group with a number. -/
  | group (number : Nat) (inner : Regular)
  | sequence (first second : Regular)
  | either (first second : Regular)
  /-- At least so many times, and at most so many if there is a limit. -/
  | repeated (least : Nat) (most : Option Nat) (inner : Regular)
  /-- The same text as the group with a number. -/
  | again (number : Nat)
  deriving DecidableEq, Repr

namespace Regular

/-- Whether an expression asks for a text that a group matched before. -/
def looksBack : Regular → Bool
  | empty | one _ | .at _ => false
  | group _ inner | repeated _ _ inner => inner.looksBack
  | sequence first second | either first second => first.looksBack || second.looksBack
  | again _ => true

/-- Whether the last part of an expression is a place. -/
def endsInPlace : Regular → Bool
  | .at _ => true
  | sequence _ second => second.endsInPlace
  | _ => false

end Regular
end TaskScript
