import TaskScript.Yaml.Resolution

/-!
# Scalar — writing one text

A text is written plainly if that can be read back, else between single quotes, else between double
quotes with escapes.  A text with a line feed is written as a literal block where the block form can
hold it.

- `style`      : the style in which a text is written
- `scalarText` : the text in that style, its continuation lines indented
-/

namespace TaskScript
namespace Yaml

/-! ## Character classes -/

/-- The characters that end a line. -/
def isBreak (c : Char) : Bool :=
  c == '\n' || c == '\r' || c.toNat == 0x85 || c.toNat == 0x2028 || c.toNat == 0x2029

/-- The characters beside which a colon or a number sign is an indicator. -/
def isSeparator (c : Char) : Bool :=
  c == ' ' || c == '\t' || c.toNat == 0 || isBreak c

/-- The characters that may be written as they are. -/
def isPrintable (c : Char) : Bool :=
  let code := c.toNat
  code == 0x0A || (0x20 ≤ code && code ≤ 0x7E) ||
    (0xA0 ≤ code && code != 0xFEFF && code != 0xFFFE && code != 0xFFFF)

/-- The characters with which no plain scalar begins. -/
def isIndicator (c : Char) : Bool :=
  "#,[]\x7b\x7d&*!|>'\"%@`".toList.contains c

/-! ## What a text allows -/

/-- Whether a character is followed by a separator or by the end of the text. -/
def separates : List Char → Bool
  | [] => true
  | c :: _ => isSeparator c

/-- Whether an indicator occurs after some first character. -/
def hasInnerIndicator : Char → List Char → Bool
  | _, [] => false
  | previous, c :: rest =>
    (c == ':' && separates rest) || (c == '#' && isSeparator previous) || hasInnerIndicator c rest

/-- Whether a text holds characters that would be taken for structure. -/
def hasIndicator : List Char → Bool
  | [] => false
  | c :: rest =>
    isIndicator c || ((c == '?' || c == ':' || c == '-') && separates rest) ||
      hasInnerIndicator c rest

/-- Whether a text begins with a document marker. -/
def startsDocument : List Char → Bool
  | '-' :: '-' :: '-' :: _ => true
  | '.' :: '.' :: '.' :: _ => true
  | _ => false

/-- Whether two neighbours in a text satisfy a relation. -/
def hasNeighbours (related : Char → Char → Bool) : List Char → Bool
  | first :: second :: rest => related first second || hasNeighbours related (second :: rest)
  | _ => false

/-- Whether a space follows a line break. -/
def hasBreakSpace : List Char → Bool := hasNeighbours fun a b => isBreak a && b == ' '

/-- Whether a space precedes a line break. -/
def hasSpaceBreak : List Char → Bool := hasNeighbours fun a b => a == ' ' && isBreak b

/-- Whether a text holds a character that has to be escaped. -/
def hasSpecial (text : List Char) : Bool := text.any fun c => !isPrintable c

/-- Whether a text begins or ends with a space or a line break. -/
def hasEdgeSpace (text : List Char) : Bool :=
  let atEdge : Option Char → Bool
    | some c => c == ' ' || isBreak c
    | none => false
  atEdge text.head? || atEdge text.getLast?

/-- Whether a text may be written plainly. -/
def allowsPlain (text : List Char) : Bool :=
  !(hasEdgeSpace text || text.any isBreak || hasSpecial text || startsDocument text ||
    hasIndicator text)

/-- Whether a text may be written between single quotes. -/
def allowsSingle (text : List Char) : Bool :=
  !(hasBreakSpace text || hasSpaceBreak text || hasSpecial text)

/-- Whether a text may be written as a literal block. -/
def allowsLiteral (text : List Char) : Bool :=
  !(text.getLast? == some ' ' || hasSpaceBreak text || hasSpecial text)

/-! ## Styles -/

/-- The ways to write a text. -/
inductive Style
  | plain
  | single
  | double
  | literal
  deriving DecidableEq, Repr

/-- The style in which a text is written. -/
def style (text : List Char) : Style :=
  if text.contains '\n' then
    if allowsLiteral text then .literal else .double
  else if !isResolved text && allowsPlain text then
    .plain
  else if allowsSingle text then
    .single
  else
    .double

/-! ## Writing -/

/-- Some spaces. -/
def spaces (n : Nat) : List Char := List.replicate n ' '

/-- The inside of a single-quoted text: quotes doubled, lines after a break indented. -/
def singleBody (indent : Nat) : Bool → List Char → List Char
  | afterBreak, [] => if afterBreak then spaces indent else []
  | afterBreak, c :: rest =>
    if isBreak c then
      c :: singleBody indent true rest
    else
      (if afterBreak then spaces indent else []) ++
        (if c == '\'' then ['\'', '\''] else [c]) ++ singleBody indent false rest

/-- The last `width` hexadecimal digits of a number. -/
def hexDigits : (width : Nat) → Nat → List Char
  | 0, _ => []
  | width + 1, n => hexDigits width (n / 16) ++ [("0123456789ABCDEF".toList)[n % 16]?.getD '0']

/-- The letters of the short escapes. -/
def shortEscape? (c : Char) : Option Char :=
  [(0x00, '0'), (0x07, 'a'), (0x08, 'b'), (0x09, 't'), (0x0A, 'n'), (0x0B, 'v'), (0x0C, 'f'),
    (0x0D, 'r'), (0x1B, 'e'), (0x22, '"'), (0x5C, '\\'), (0x85, 'N'), (0xA0, '_'), (0x2028, 'L'),
    (0x2029, 'P')].lookup c.toNat

/-- A character inside double quotes. -/
def doubleChar (c : Char) : List Char :=
  if !isPrintable c || isBreak c || c == '"' || c == '\\' then
    match shortEscape? c with
    | some letter => ['\\', letter]
    | none =>
      let code := c.toNat
      if code ≤ 0xFF then '\\' :: 'x' :: hexDigits 2 code
      else if code ≤ 0xFFFF then '\\' :: 'u' :: hexDigits 4 code
      else '\\' :: 'U' :: hexDigits 8 code
  else
    [c]

/-- The signs after the bar of a literal block: the indentation if the text begins with a space or a
break, and what becomes of the breaks at its end. -/
def literalHints (text : List Char) : List Char :=
  let indentation := match text with
    | c :: _ => if c == ' ' || isBreak c then ['2'] else []
    | [] => []
  let chomping := match text.reverse with
    | last :: before =>
      if !isBreak last then ['-']
      else match before with
        | [] => ['+']
        | c :: _ => if isBreak c then ['+'] else []
    | [] => ['-']
  indentation ++ chomping

/-- The lines of a literal block, indented. -/
def literalBody (indent : Nat) : Bool → List Char → List Char
  | _, [] => []
  | afterBreak, c :: rest =>
    if isBreak c then
      c :: literalBody indent true rest
    else
      (if afterBreak then spaces indent else []) ++ c :: literalBody indent false rest

/-- A text in its style.  Continuation lines are indented by `indent`. -/
def scalarText (indent : Nat) (text : List Char) : List Char :=
  match style text with
  | .plain => text
  | .single => '\'' :: singleBody indent false text ++ ['\'']
  | .double => '"' :: text.flatMap doubleChar ++ ['"']
  | .literal => '|' :: literalHints text ++ '\n' :: literalBody indent true text

end Yaml
end TaskScript
