import TaskScript.Number.Numeral

/-!
# Quoting — names in messages

- `Quoting.plain`  : a text in quotation marks, with escapes for what cannot be seen
- `Quoting.always` : a text as a shell would read it, in quotation marks
- `Quoting.needed` : the same, but without quotation marks where none are needed

Texts are texts of octets.
-/

namespace TaskScript
namespace Quoting

/-- Whether an octet can be seen. -/
def isVisible (c : Char) : Bool := 32 ≤ c.toNat && c.toNat ≤ 126

/-- An octet that cannot be seen, as it is written. -/
def escaped (c : Char) : String :=
  match c.toNat with
  | 7 => "\\a"
  | 8 => "\\b"
  | 9 => "\\t"
  | 10 => "\\n"
  | 11 => "\\v"
  | 12 => "\\f"
  | 13 => "\\r"
  | n => "\\" ++ Numeral.padded 3 '0' (Numeral.inBase 8 n)

/-- A text in quotation marks, with escapes for what cannot be seen. -/
def plain (text : String) : String :=
  "'" ++ String.join (text.toList.map fun c =>
    if c == '\'' then "\\'"
    else if c == '\\' then "\\\\"
    else if isVisible c then String.singleton c
    else escaped c) ++ "'"

/-- Whether a character means the same within both kinds of quotation marks. -/
def isNeutral (c : Char) : Bool := c.isAlphanum || "%+,-./:@]_ '".toList.contains c

/-- A text within single quotation marks; `isEscaping` tells whether escapes are being written. -/
def singly : Bool → List Char → String
  | _, [] => ""
  | isEscaping, c :: rest =>
    if isVisible c then
      (if isEscaping then "''" else "") ++
        (if c == '\'' then "'\\''" else String.singleton c) ++ singly false rest
    else
      (if isEscaping then "" else "'$'") ++ escaped c ++ singly true rest

/-- A text as a shell would read it, in quotation marks. -/
def always (text : String) : String :=
  let chars := text.toList
  if chars.contains '\'' && chars.all isNeutral then "\"" ++ text ++ "\""
  else "'" ++ singly false chars ++ "'"

/-- Whether a character means something to a shell. -/
def isSpecial (c : Char) : Bool := !isVisible c || " !\"$&'()*:;<=>?[\\^\x60|".toList.contains c

/-- A text as a shell would read it, in quotation marks where they are needed. -/
def needed (text : String) : String :=
  match text.toList with
  | [] => "''"
  | c :: rest =>
    let isAlone := rest.isEmpty && (c == '\x7b' || c == '\x7d')
    if c == '#' || c == '~' || isAlone || (c :: rest).any isSpecial then always text else text

end Quoting
end TaskScript
