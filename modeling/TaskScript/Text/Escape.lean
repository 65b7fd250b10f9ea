import TaskScript.Number.Numeral

/-!
# Escape — characters written with a backslash

- `Escape.Style`    : which ways of writing a character there are
- `Escape.read`     : what the text after a backslash stands for
- `Escape.resolve`  : a text with its escapes resolved, as far as it goes

Texts are texts of octets.
-/

namespace TaskScript
namespace Escape

/-- Which ways of writing a character there are besides single letters. -/
structure Style where
  /-- Up to three octal digits after a zero; otherwise a zero is one of the digits. -/
  zeroFirst : Bool
  /-- Two hexadecimal digits after `x`. -/
  hexadecimal : Bool
  /-- The letter `c` ends the text. -/
  stops : Bool
  deriving DecidableEq, Repr

/-- What the text after a backslash stands for. -/
inductive Found
  /-- Characters, and what follows. -/
  | characters (found rest : List Char)
  /-- The end of all text. -/
  | stop
  /-- Nothing but itself. -/
  | nothing
  deriving DecidableEq, Repr

/-- The characters that letters stand for. -/
def letters : List (Char × Char) :=
  [('\\', '\\'), ('a', '\x07'), ('b', '\x08'), ('e', '\x1b'), ('f', '\x0c'), ('n', '\n'),
    ('r', '\r'), ('t', '\t'), ('v', '\x0b')]

/-- The octet that digits stand for. -/
def octet (base : Nat) (digits : List Char) : Char :=
  Char.ofNat (Numeral.ofDigits base digits % 256)

/-- At most so many digits at the start of a text, and what follows. -/
def someDigits (base count : Nat) (text : List Char) : List Char × List Char :=
  let digits := (text.take count).takeWhile (Numeral.isDigit base)
  (digits, text.drop digits.length)

/-- What the text after a backslash stands for. -/
def read (style : Style) (text : List Char) : Found :=
  match text with
  | [] => .nothing
  | c :: rest =>
    let numbered (base count : Nat) (text : List Char) : Found :=
      let found := someDigits base count text
      .characters [octet base found.1] found.2
    match letters.lookup c with
    | some d => .characters [d] rest
    | none =>
      if c == '0' && style.zeroFirst then numbered 8 3 rest
      else if Numeral.isDigit 8 c then numbered 8 3 text
      else if c == 'x' && style.hexadecimal && !(someDigits 16 2 rest).1.isEmpty then
        numbered 16 2 rest
      else if c == 'c' && style.stops then .stop
      else .nothing

/-- A text with its escapes resolved, and whether it goes on to its end.  `steps` is more than its
length. -/
def resolve (style : Style) : Nat → List Char → List Char × Bool
  | 0, _ => ([], true)
  | _ + 1, [] => ([], true)
  | steps + 1, '\\' :: rest =>
    match read style rest with
    | .characters found after =>
      let more := resolve style steps after
      (found ++ more.1, more.2)
    | .stop => ([], false)
    | .nothing =>
      let more := resolve style steps rest
      ('\\' :: more.1, more.2)
  | steps + 1, c :: rest =>
    let more := resolve style steps rest
    (c :: more.1, more.2)

end Escape
end TaskScript
