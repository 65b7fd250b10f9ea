import TaskScript.Number.Binary
import TaskScript.Text.Escape

/-!
# Token — the words of programs that work on records

- `Record.Token`  : words, numbers, texts, expressions and marks
- `Record.Word`   : a token with its line
- `Record.scan`   : the tokens of a text

A slash starts a regular expression where nothing can be divided.
-/

namespace TaskScript
namespace Record

/-- A word, a number, a text, an expression or a mark. -/
inductive Token
  | number (value : Float) (written : String)
  | text (value written : String)
  | pattern (written : String)
  | name (name : String)
  /-- A name with an opening parenthesis right after it. -/
  | routine (name : String)
  | keyword (word : String)
  /-- A routine that every program has. -/
  | builtin (name : String)
  | mark (mark : String)
  | lineEnd
  | finish
  /-- Something that is no token, after which nothing can be read. -/
  | wrong (message : String)
  /-- A character that no token starts with. -/
  | unknown (c : Char)

/-- A complaint about a line. -/
def aboutLine (line : Nat) (message : String) : String :=
  "line " ++ toString line ++ ": " ++ message

/-- A complaint about a character that no token starts with. -/
def aboutCharacter (line : Nat) (c : Char) : String :=
  toString line ++ ": unexpected character '" ++ String.singleton c ++ "'"

/-- A token with its line, how many braces and parentheses are open, and complaints about what
stands before it. -/
structure Word where
  token : Token
  line : Nat
  braces : Nat
  parentheses : Nat
  complaints : List String

/-- The words that names cannot be. -/
def keywords : List String :=
  ["BEGIN", "END", "break", "continue", "delete", "do", "else", "exit", "for", "function",
    "getline", "if", "in", "next", "nextfile", "print", "printf", "return", "while"]

/-- The routines that every program has. -/
def builtins : List String :=
  ["atan2", "close", "cos", "exp", "fflush", "gsub", "index", "int", "length", "log", "match",
    "rand", "sin", "split", "sprintf", "sqrt", "srand", "sub", "substr", "system", "tolower",
    "toupper"]

/-- The marks of two characters. -/
def pairs : List String :=
  ["&&", "||", "==", "!=", "<=", ">=", "!~", "++", "--", "+=", "-=", "*=", "/=", "%=", "^=", ">>"]

/-- The marks of one character. -/
def marks : List Char := "\x7b\x7d()[];,+-*/%^!<>|?:~$=".toList

namespace Token

/-- How a token is named in complaints. -/
def written : Token → String
  | number _ w | text _ w => w
  | pattern w => "/" ++ w ++ "/"
  | name w | routine w | builtin w | keyword w | mark w => w
  | lineEnd => "end of line"
  | finish => "end of file"
  | wrong message => message
  | unknown c => String.singleton c

/-- Whether a value may end with a token. -/
def endsValue : Token → Bool
  | number .. | text .. | pattern _ | name _ | builtin _ => true
  | keyword w => w == "getline"
  | mark w => [")", "]", "++", "--"].contains w
  | _ => false

end Token

/-- Whether a name can go on with a character. -/
def isNamed (c : Char) : Bool := c.isAlphanum || c == '_'

/-- What letters stand for after a backslash. -/
def escapes : List (Char × Char) :=
  [('"', '"'), ('\\', '\\'), ('a', '\x07'), ('b', '\x08'), ('f', '\x0c'), ('n', '\n'),
    ('r', '\r'), ('t', '\t'), ('v', '\x0b')]

/-- The character that digits after a backslash stand for, and what follows. -/
def numbered? (text : List Char) : Option (Char × List Char) :=
  match text with
  | 'x' :: rest =>
    let found := Escape.someDigits 16 2 rest
    if found.1.isEmpty then none else some (Escape.octet 16 found.1, found.2)
  | _ =>
    let found := Escape.someDigits 8 3 text
    if found.1.isEmpty then none else some (Escape.octet 8 found.1, found.2)

/-- A text with its escapes resolved; `steps` is more than its length. -/
def unescaped : Nat → List Char → List Char
  | 0, _ => []
  | _ + 1, [] => []
  | steps + 1, '\\' :: rest =>
    match numbered? rest with
    | some (c, rest) => c :: unescaped steps rest
    | none =>
      match rest with
      | [] => ['\\']
      | '\n' :: rest => unescaped steps rest
      | c :: rest =>
        match escapes.lookup c with
        | some found => found :: unescaped steps rest
        | none => '\\' :: c :: unescaped steps rest
  | steps + 1, c :: rest => c :: unescaped steps rest

/-- A text up to a closing mark, and what follows it; a backslash keeps the character after it. -/
def upTo? (stop : Char) (crosses : Bool) : List Char → Option (List Char × List Char)
  | [] => none
  | '\\' :: c :: rest => (upTo? stop crosses rest).map fun found => ('\\' :: c :: found.1, found.2)
  | c :: rest =>
    if c == stop then some ([], rest)
    else if c == '\n' && !crosses then none
    else (upTo? stop crosses rest).map fun found => (c :: found.1, found.2)

/-- A regular expression up to its slash, and what follows it; a slash within a set is a part of
it. -/
def patternUpTo? : Nat → Bool → List Char → Option (List Char × List Char)
  | 0, _, _ => none
  | steps + 1, isInSet, text =>
    let goOn (taken rest : List Char) (isInSet : Bool) : Option (List Char × List Char) :=
      (patternUpTo? steps isInSet rest).map fun found => (taken ++ found.1, found.2)
    match text with
    | [] => none
    | '\n' :: _ => none
    | '\\' :: '/' :: rest => goOn ['/'] rest isInSet
    | '\\' :: c :: rest => goOn ['\\', c] rest isInSet
    | '[' :: '^' :: ']' :: rest => goOn (if isInSet then ['['] else ['[', '^', ']'])
        (if isInSet then '^' :: ']' :: rest else rest) true
    | '[' :: ']' :: rest => goOn (if isInSet then ['['] else ['[', ']'])
        (if isInSet then ']' :: rest else rest) true
    | '[' :: ':' :: rest =>
      if isInSet then
        let name := rest.takeWhile Char.isAlpha
        match rest.drop name.length with
        | ':' :: ']' :: rest => goOn ('[' :: ':' :: name ++ [':', ']']) rest true
        | _ => goOn ['['] (':' :: rest) true
      else goOn ['['] (':' :: rest) true
    | '[' :: rest => goOn ['['] rest true
    | ']' :: rest => goOn [']'] rest false
    | '/' :: rest => if isInSet then goOn ['/'] rest true else some ([], rest)
    | c :: rest => goOn [c] rest isInSet

/-- The number at the start of a text, as it is written in programs, and what follows. -/
def numeral (text : List Char) : Float × List Char :=
  let (whole, places, rest) := Binary.pointed 10 text
  let (power, rest) := Binary.power 'e' rest
  let q := Binary.quotient 10 whole places 10 power
  ((Binary.ofRatio .double false q.1 q.2).toFloat, rest)

/-- The token at the start of a text that is not blank, and what follows. -/
def token (isDivision : Bool) (text : List Char) : Token × List Char :=
  match text with
  | [] => (.finish, [])
  | '\n' :: rest => (.lineEnd, rest)
  | '"' :: rest =>
    match upTo? '"' false rest with
    | some (found, rest) =>
      let value := String.ofList (unescaped (found.length + 1) found)
      (.text value value, rest)
    | none =>
      let line := rest.takeWhile (· != '\n')
      (.wrong ("runaway string constant \"" ++ String.ofList (line.take 10) ++ " ..."), [])
  | '/' :: rest =>
    if isDivision then
      match rest with
      | '=' :: rest => (.mark "/=", rest)
      | _ => (.mark "/", rest)
    else
      match patternUpTo? (rest.length + 1) false rest with
      | some (found, rest) => (.pattern (String.ofList found), rest)
      | none =>
        let line := rest.takeWhile (· != '\n')
        (.wrong ("runaway regular expression /" ++ String.ofList (line.take 10) ++ " ..."), [])
  | c :: rest =>
    if c.isAlpha || c == '_' then
      let name := String.ofList (text.takeWhile isNamed)
      let rest := text.dropWhile isNamed
      if keywords.contains name then (.keyword name, rest)
      else if builtins.contains name then (.builtin name, rest)
      else if rest.head? == some '(' then (.routine name, rest)
      else (.name name, rest)
    else if c.isDigit || (c == '.' && rest.head?.any Char.isDigit) then
      let (value, after) := numeral text
      (.number value (String.ofList (text.take (text.length - after.length))), after)
    else
      let two := String.ofList (text.take 2)
      if pairs.contains two then (.mark two, rest.tail)
      else if marks.contains c then (.mark (String.singleton c), rest)
      else (.unknown c, rest)

/-- A text without the blanks, joined lines and comments at its start, and how many lines were
joined. -/
def skipBlank : Nat → List Char → Nat × List Char
  | 0, text => (0, text)
  | steps + 1, text =>
    match text with
    | '\\' :: '\n' :: rest =>
      let (joined, rest) := skipBlank steps rest
      (joined + 1, rest)
    | '#' :: rest => skipBlank steps (rest.dropWhile (· != '\n'))
    | c :: rest =>
      if c == ' ' || c == '\t' || c == '\r' || c == '\x0b' || c == '\x0c' then skipBlank steps rest
      else (0, text)
    | [] => (0, [])

/-- The tokens of a text, given how many braces and parentheses are open; `steps` is more than its
length. -/
def words : Nat → Nat → Option Token → Nat × Nat → List String → List Char → List Word
  | 0, line, _, _, complaints, _ => [⟨.finish, line, 0, 0, complaints⟩]
  | steps + 1, line, before?, (braces, parentheses), complaints, text =>
    let (joined, text) := skipBlank (text.length + 1) text
    let line := line + joined
    let (found, rest) := token (before?.any Token.endsValue) text
    let here : Word := ⟨found, line, braces, parentheses, complaints⟩
    let goOn (next braces parentheses : Nat) : List Word :=
      here :: words steps next (some found) (braces, parentheses) [] rest
    let passOver (message : String) : List Word :=
      words steps line before? (braces, parentheses) (complaints ++ [message]) rest
    match found with
    | .unknown '\\' => passOver (aboutCharacter line '\\')
    | .finish | .wrong _ => [here]
    | .lineEnd => goOn (line + 1) braces parentheses
    | .mark "\x7b" => goOn line (braces + 1) parentheses
    | .mark "\x7d" =>
      if braces = 0 then passOver (aboutLine line "extra '\x7d'")
      else goOn line (braces - 1) parentheses
    | .mark "(" => goOn line braces (parentheses + 1)
    | .mark ")" =>
      if parentheses = 0 then passOver (aboutLine line "extra ')'")
      else goOn line braces (parentheses - 1)
    | _ => goOn line braces parentheses

/-- The tokens of a text, whose last line is ended. -/
def scan (text : List Char) : List Word :=
  let text := text ++ ['\n']
  words (text.length + 2) 1 none (0, 0) [] text

end Record
end TaskScript
