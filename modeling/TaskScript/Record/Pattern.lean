import TaskScript.Record.Token
import TaskScript.Regular.Reader
import TaskScript.Regular.Search

/-!
# Pattern — regular expressions of programs that work on records

- `Pattern.read`  : the expression that a text spells
- `Pattern.parts` : a text as parts between the matches of an expression

A closing parenthesis or a brace that makes no sense stands for itself, but every branch holds
something.
-/

namespace TaskScript
namespace Record
namespace Pattern

/-- How expressions are written. -/
def dialect : Regular.Dialect :=
  { isExtended := true, folds := false, stray := .refused, isLenient := true, hasWords := false
    escapes := ('/', '/') :: escapes, escapesInSets := true
    repeatsPlaces := true, repeatsOnce := false }

/-- Characters that are not themselves in expressions. -/
def special : List Char := "^$.[]|()*+?\x7b\x7d\\".toList

/-- A text with the characters that digits stand for put in their place; `steps` is more than its
length. -/
def plain : Nat → List Char → List Char
  | 0, _ => []
  | _ + 1, [] => []
  | steps + 1, '\\' :: rest =>
    match numbered? rest with
    | some (c, rest) => (if special.contains c then ['\\', c] else [c]) ++ plain steps rest
    | none => '\\' :: rest.take 1 ++ plain steps (rest.drop 1)
  | steps + 1, c :: rest => c :: plain steps rest

/-- Whether an expression has a branch or a group that holds nothing. -/
def hasGap : Regular → Bool
  | .empty | .one _ | .at _ | .again _ => false
  | .group _ inner => inner == .empty || hasGap inner
  | .sequence first second => hasGap first || hasGap second
  | .either first second =>
    first == .empty || second == .empty || hasGap first || hasGap second
  | .repeated _ _ inner => hasGap inner

/-- The wording of a fault. -/
def faultMessage : Regular.Fault → String
  | .openGroup => "missing ')'"
  | .closedGroup => "missing '('"
  | .openBracket => "bad class -- [], [^] or ["
  | .badClass | .badElement | .badRange => "syntax error ^* or ^+"
  | .openInterval | .badInterval | .badOrder | .tooBig => "bad interval expression"
  | .badRepetition | .badReference | .openEscape => "missing operand"

/-- Say why a text spells no expression. -/
def complaint (reason written : String) : String :=
  "regular expression compile failed (" ++ reason ++ ")\n" ++ written

/-- The expression that a text spells. -/
def read (written : String) : Except String Regular :=
  match Regular.read dialect (plain (written.length + 1) written.toList) with
  | .ok regular =>
    if hasGap regular then .error (complaint "missing operand" written) else .ok regular
  | .error fault => .error (complaint (faultMessage fault) written)

/-- A text in which expressions are looked for. -/
def subject (text : List Char) : Regular.Subject := ⟨text.toArray, false, false⟩

/-- The parts of a text from a position on between the matches of an expression that hold something,
so many at most. -/
def partsFrom (regular : Regular) (s : Regular.Subject) : Nat → Nat → Nat → List (List Char)
  | 0, start, _ => [s.between start s.text.size]
  | steps + 1, start, position =>
    match regular.search? s position with
    | none => [s.between start s.text.size]
    | some found =>
      if found.start == found.stop then
        if found.start < s.text.size then partsFrom regular s steps start (found.start + 1)
        else [s.between start s.text.size]
      else s.between start found.start :: partsFrom regular s steps found.stop found.stop

/-- The parts of a text between the matches of an expression that hold something. -/
def parts (regular : Regular) (text : List Char) : List (List Char) :=
  let s := subject text
  partsFrom regular s (2 * text.length + 2) 0 0

end Pattern
end Record
end TaskScript
