import TaskScript.Shell.Builtin.Basic

/-!
# Input — builtins that read

`read` reads a line, `getopts` the next option among arguments.
-/

namespace TaskScript
namespace Shell
namespace Builtin

/-! ## Lines -/

/-- A line as it is read: its characters, how many bytes it takes, and whether it ends.  A backslash
takes the meaning of the character after it away unless the line is raw; before the end of a line
both count for nothing. -/
structure Line where
  reversed : List Field.Input
  size : Nat
  isEnded : Bool

/-- Read a line from bytes. -/
def lineOf (isRaw : Bool) : List Char → Line → Line
  | [], line => line
  | '\n' :: _, line => { line with size := line.size + 1, isEnded := true }
  | '\\' :: rest, line =>
    if isRaw then
      lineOf isRaw rest
        { line with reversed := ('\\', false) :: line.reversed, size := line.size + 1 }
    else
      match rest with
      | '\n' :: more => lineOf isRaw more { line with size := line.size + 2 }
      | c :: more =>
        lineOf isRaw more
          { line with reversed := (c, true) :: line.reversed, size := line.size + 2 }
      | [] => { line with size := line.size + 1 }
  | c :: rest, line =>
    let more := if c == '\x00' then line.reversed else (c, false) :: line.reversed
    lineOf isRaw rest { line with reversed := more, size := line.size + 1 }

/-- The next line of the input, of which so many bytes are looked at first, and more if the line is
longer. -/
def firstLine (isRaw : Bool) (m : Machine) : Nat → Nat → Line
  | 0, _ => ⟨[], 0, false⟩
  | steps + 1, most =>
    let bytes := match m.availableUpTo 0 (some most) with
      | .ok bytes => bytes
      | .error _ => .empty
    let line := lineOf isRaw (Octets.charsOf bytes) ⟨[], 0, false⟩
    if line.isEnded || bytes.size < most then line else firstLine isRaw m steps (2 * most)

/-- Read a line of the input into variables. -/
def read : Builtin :=
  withOptions "p:r" fun chosen names m =>
    if names.isEmpty then giveUp m "arg count"
    else
      let isRaw := chosen.any fun c => c.1 == 'r'
      let line := firstLine isRaw m 40 256
      let m := m.advance 0 line.size
      let values := Field.some m.separators names.length line.reversed.reverse
      let step (m : Machine) (pair : String × String) : Machine :=
        if m.flow != .onward then m
        else if !Reader.isName pair.1 then giveUp m (pair.1 ++ ": bad variable name")
        else m.set pair.1 pair.2
      let m := (names.zip values).foldl step m
      if m.flow == .onward then m.withStatus (if line.isEnded then 0 else 1) else m

/-! ## Options -/

/-- What a list of letters says of one of them: whether it takes a text. -/
def takesText? (letters : List Char) (c : Char) : Option Bool :=
  match letters with
  | [] => none
  | d :: rest =>
    if d == c then some (rest.head? == some ':')
    else takesText? (if rest.head? == some ':' then rest.tail else rest) c
termination_by letters.length
decreasing_by
  simp only [List.length_cons]
  split
  · simp only [List.length_tail]; omega
  · omega

/-- What looking for an option gives. -/
structure Found where
  letter : String
  text? : Option String
  complaint? : Option String
  /-- The argument looked at next, and how far the one before it has been read. -/
  index : Nat
  offset : Nat
  isLast : Bool

/-- The next option among arguments, looked for from a position on. -/
def nextOption (spec : List Char) (args : List String) (index offset : Nat) : Found :=
  let isQuiet := spec.head? == some ':'
  let letters := if isQuiet then spec.tail else spec
  let ended (index : Nat) : Found := ⟨"?", none, none, index, 0, true⟩
  /- The option that begins with `text`, which is what is left of the argument before `index`. -/
  let option (text : List Char) (index offset : Nat) : Found :=
    match text with
    | [] => ended index
    | c :: rest =>
      let onward := if rest.isEmpty then 0 else offset + 1
      match if c == ':' then none else takesText? letters c with
      | none =>
        if isQuiet then ⟨"?", some (String.singleton c), none, index, onward, false⟩
        else ⟨"?", none, some ("Illegal option -" ++ String.singleton c), index, onward, false⟩
      | some false => ⟨String.singleton c, some "", none, index, onward, false⟩
      | some true =>
        if !rest.isEmpty then ⟨String.singleton c, some (String.ofList rest), none, index, 0, false⟩
        else
          match args[index - 1]? with
          | some text => ⟨String.singleton c, some text, none, index + 1, 0, false⟩
          | none =>
            if isQuiet then ⟨":", some (String.singleton c), none, index, 0, false⟩
            else
              ⟨"?", none, some ("No arg for -" ++ String.singleton c ++ " option"), index, 0, false⟩
  let left := if index ≤ 1 || offset = 0 then [] else
    ((args[index - 2]?).getD "").toList.drop offset
  if !left.isEmpty then option left index offset
  else
    match (args[index - 1]?).map String.toList with
    | some ['-', '-'] => ended (index + 1)
    | some ('-' :: c :: rest) => option (c :: rest) (index + 1) 1
    | _ => ended index

/-- Read the next option among the arguments. -/
def getopts : Builtin := fun args m =>
  match args with
  | spec :: name :: others =>
    let all := if others.isEmpty then m.args else others
    let isFresh := all.length + 1 < m.optionIndex
    let found := nextOption spec.toList all (if isFresh then 1 else max m.optionIndex 1)
      (if isFresh then 0 else m.optionOffset)
    let m := match found.complaint? with
      | some line => m.complain line
      | none => m
    let m :=
      if found.isLast then m
      else
        match found.text? with
        | some text => m.set "OPTARG" text
        | none => m.restore "OPTARG" none
    let m := m.put "OPTIND" (toString found.index)
    let m := { m with optionIndex := found.index, optionOffset := found.offset }
    let m := m.withStatus (if found.isLast then 1 else 0)
    if Reader.isName name then m.set name found.letter
    else giveUp m (name ++ ": bad variable name")
  | _ => giveUp m "Usage: getopts optstring var [arg...]"

end Builtin
end Shell
end TaskScript
