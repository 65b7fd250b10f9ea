import TaskScript.Bindings
import TaskScript.Record.Pattern
import TaskScript.Record.Syntax

/-!
# Reader — from texts to programs that work on records

`Record.read` reads a program, or tells what is wrong with its text, with the line of it.

Operators are read by levels, from those that bind least to those that bind most.  Two values beside
each other are joined; an assignment can stand wherever a value can that is compared or joined
first.
-/

namespace TaskScript
namespace Record

/-- How a name is used. -/
inductive Usage
  | variable
  | table
  deriving DecidableEq, Repr

/-- How far a text has been read. -/
structure Progress where
  rest : List Word
  /-- What has been complained about. -/
  complaints : List String
  /-- The line of the last word. -/
  line : Nat
  /-- How names are used that belong to the whole program. -/
  usages : Bindings Usage
  /-- The names that belong to the routine being read, if there is one. -/
  locals? : Option (List String)
  /-- How many arguments the routines take that have been read, and which were called. -/
  routines : Bindings Nat
  called : List (String × Nat × Nat)
  loops : Nat
  /-- Whether records are there to go on from. -/
  hasRecords : Bool

/-- Reading, which may end in complaints. -/
abbrev Reading := StateT Progress (Except (List String))

namespace Reading

/-! ## Words -/

/-- The next word. -/
def word : Reading Word := do
  let p ← get
  return (p.rest.head?).getD ⟨.finish, p.line, 0, 0, []⟩

/-- The next token. -/
def peek : Reading Token := do return (← word).token

/-- End in a complaint about a line. -/
def failAt {α : Type} (line : Nat) (message : String) : Reading α := do
  let p ← get
  let w ← word
  throw (p.complaints ++ w.complaints ++ [aboutLine line message])

/-- End in a complaint. -/
def fail {α : Type} (message : String) : Reading α := do failAt (← word).line message

/-- What is missing before a word that ends something, if parentheses or braces are still open
there. -/
def missing? (w : Word) : Option String :=
  let near (what : String) : Option String :=
    some ("missing " ++ what ++ " near " ++ w.token.written)
  let endsStatement := match w.token with
    | .finish | .lineEnd | .mark ";" | .mark "\x7d" | .keyword "BEGIN" | .keyword "END" => true
    | _ => false
  let endsRule := match w.token with
    | .finish | .keyword "BEGIN" | .keyword "END" => true
    | _ => false
  if w.parentheses != 0 && endsStatement then near ")"
  else if w.braces != 0 && endsRule then near "\x7d"
  else none

/-- End in a complaint about the next token. -/
def unexpected {α : Type} : Reading α := do
  let w ← word
  match w.token with
  | .wrong message => fail message
  | .unknown c =>
    let p ← get
    throw (p.complaints ++ w.complaints ++ [aboutCharacter w.line c])
  | token => fail ((missing? w).getD ("syntax error at or near " ++ token.written))

/-- Go on after the next word. -/
def advance : Reading Unit := modify fun p =>
  match p.rest with
  | [] => p
  | w :: rest =>
    { p with rest, line := w.line, complaints := p.complaints ++ w.complaints }

/-- Whether the next token is a mark. -/
def isMark (mark : String) : Reading Bool := do
  match ← peek with
  | .mark found => return found == mark
  | _ => return false

/-- Whether the next token is a keyword. -/
def isKeyword (keyword : String) : Reading Bool := do
  match ← peek with
  | .keyword found => return found == keyword
  | _ => return false

/-- Read a mark, if it comes next. -/
def tryMark (mark : String) : Reading Bool := do
  if ← isMark mark then
    advance
    return true
  else return false

/-- Read a mark. -/
def expect (mark : String) : Reading Unit := do
  if !(← tryMark mark) then unexpected

/-- Read ends of lines, at most so many; one with a complaint stays. -/
def skipLines : Nat → Reading Unit
  | 0 => pure ()
  | steps + 1 => do
    let w ← word
    match w.token with
    | .lineEnd =>
      if w.complaints.isEmpty then
        advance
        skipLines steps
    | _ => pure ()

/-- Read all ends of lines. -/
def skipAllLines : Reading Unit := do skipLines ((← get).rest.length)

/-! ## Names -/

/-- Whether a name belongs to the routine being read. -/
def isLocal (name : String) : Reading Bool := do
  return (((← get).locals?).getD []).contains name

/-- Note how a name is used. -/
def use (name : String) (usage : Usage) : Reading Unit := do
  if ← isLocal name then return
  let p ← get
  if p.routines.contains name then unexpected
  match p.usages.get? name with
  | none => set { p with usages := p.usages.set name usage }
  | some known =>
    if known != usage then
      let kind := match known with
        | .variable => "variable "
        | .table => "array "
      fail ("illegal reference to " ++ kind ++ name)

/-- The expression that a text spells. -/
def pattern (written : String) : Reading Expr := do
  match Pattern.read written with
  | .ok regular => return .pattern written regular
  | .error message => fail message

/-- Make a text that expressions are looked for with an expression. -/
def asPattern (e : Expr) : Reading Expr :=
  match e with
  | .text written => pattern written
  | _ => return e

/-! ## Operators -/

/-- What a mark between two values means at a level. -/
def operator? (level : Nat) (mark : String) : Option (Expr → Expr → Expr) :=
  match level, mark with
  | 1, "||" => some .either
  | 2, "&&" => some .both
  | 4, "~" => some .fits
  | 4, "!~" => some fun a b => .opposite (.fits a b)
  | 5, "<" => some (.compared .less)
  | 5, "<=" => some (.compared .lessOrSame)
  | 5, "==" => some (.compared .same)
  | 5, "!=" => some (.compared .different)
  | 5, ">" => some (.compared .greater)
  | 5, ">=" => some (.compared .greaterOrSame)
  | 7, "+" => some (.calculated .add)
  | 7, "-" => some (.calculated .subtract)
  | 8, "*" => some (.calculated .multiply)
  | 8, "/" => some (.calculated .divide)
  | 8, "%" => some (.calculated .remainder)
  | _, _ => none

/-- What a mark does that assigns. -/
def assignment? (mark : String) : Option (Option Operation) :=
  match mark with
  | "=" => some none
  | "+=" => some (some .add)
  | "-=" => some (some .subtract)
  | "*=" => some (some .multiply)
  | "/=" => some (some .divide)
  | "%=" => some (some .remainder)
  | "^=" => some (some .power)
  | _ => none

/-- Whether a value can start with a token. -/
def startsValue : Token → Bool
  | .number .. | .text .. | .pattern _ | .name _ | .routine _ | .builtin _ => true
  | .keyword keyword => keyword == "getline"
  | .mark mark => ["(", "$", "!", "-", "+", "++", "--"].contains mark
  | _ => false

/-- How many arguments the routines take that every program has. -/
def argumentCounts (name : String) : Nat × Nat :=
  match name with
  | "atan2" | "index" => (2, 2)
  | "close" | "cos" | "exp" | "int" | "log" | "sin" | "sqrt" | "system" | "tolower" | "toupper" =>
    (1, 1)
  | "fflush" | "length" | "srand" => (0, 1)
  | "gsub" | "sub" | "split" | "substr" => (2, 3)
  | "match" => (2, 2)
  | "rand" => (0, 0)
  | _ => (1, 255)

/-! ## Values -/

mutual

/-- A value, in whatever form; redirections may follow it where it is printed. -/
def expr : Nat → Bool → Reading Expr
  | 0, _ => unexpected
  | steps + 1, isPrinted => do
    let test ← climb steps isPrinted 1
    if ← tryMark "?" then
      skipAllLines
      let first ← expr steps isPrinted
      skipAllLines
      expect ":"
      skipAllLines
      let second ← expr steps isPrinted
      return .choice test first second
    else return test

/-- A value whose operators bind at least as much as those of a level. -/
def climb : Nat → Bool → Nat → Reading Expr
  | 0, _, _ => unexpected
  | steps + 1, isPrinted, level => do
    if level = 6 then
      let first ← climb steps isPrinted 7
      match first, ← peek with
      | .place place, .mark mark =>
        match assignment? mark with
        | some operation? =>
          advance
          skipAllLines
          let value ← expr steps isPrinted
          return .assign place operation? value
        | none => onward steps isPrinted 6 first
      | _, _ => onward steps isPrinted 6 first
    else if level = 9 then
      match ← peek with
      | .mark "!" =>
        advance
        return .opposite (← climb steps isPrinted 9)
      | .mark "-" =>
        advance
        return .negated (← climb steps isPrinted 9)
      | .mark "+" =>
        advance
        return .plain (← climb steps isPrinted 9)
      | _ => climb steps isPrinted 10
    else if level = 11 then
      let base ← primary steps isPrinted
      if ← tryMark "^" then
        let power ← match ← peek with
          | .mark mark =>
            if ["!", "-", "+"].contains mark then climb steps isPrinted 9
            else climb steps isPrinted 11
          | _ => climb steps isPrinted 11
        return .calculated .power base power
      else return base
    else
      let first ← climb steps isPrinted (level + 1)
      onward steps isPrinted level first

/-- What follows a value at a level. -/
def onward : Nat → Bool → Nat → Expr → Reading Expr
  | 0, _, _, _ => unexpected
  | steps + 1, isPrinted, level, first => do
    let token ← peek
    if level = 3 then
      match token with
      | .keyword "in" =>
        advance
        let table ← tableName
        onward steps isPrinted level (.within [first] table)
      | _ => return first
    else if level = 6 then
      if startsValue token then
        let second ← climb steps isPrinted 7
        onward steps isPrinted level (.joined first second)
      else return first
    else if level = 10 then
      match token with
      | .mark "|" =>
        if isPrinted then return first
        advance
        if !(← isKeyword "getline") then unexpected
        advance
        let place? ← tryPlace steps
        onward steps isPrinted level (.read (.command first) place?)
      | _ => return first
    else
      match token with
      | .mark mark =>
        if mark == ">" && isPrinted then return first
        if mark == ">=" && isPrinted && level = 5 then fail "syntax error at or near ="
        match operator? level mark with
        | some join =>
          advance
          if level ≤ 2 then skipAllLines
          let second ← climb steps isPrinted (level + 1)
          let second ← if level = 4 then asPattern second else pure second
          onward steps isPrinted level (join first second)
        | none => return first
      | _ => return first

/-- The name of a table. -/
def tableName : Reading String := do
  match ← peek with
  | .name name =>
    use name .table
    advance
    return name
  | _ => unexpected

/-- A value that has no operators, or is counted. -/
def primary : Nat → Bool → Reading Expr
  | 0, _ => unexpected
  | steps + 1, isPrinted => do
    match ← peek with
    | .mark "++" =>
      advance
      return .count (← place steps) true true
    | .mark "--" =>
      advance
      return .count (← place steps) false true
    | .mark "!" | .mark "-" | .mark "+" => climb steps isPrinted 9
    | _ =>
      match ← unit steps with
      | .place place =>
        if ← tryMark "++" then return .count place true false
        else if ← tryMark "--" then return .count place false false
        else return .place place
      | other => return other

/-- A value without operators. -/
def unit : Nat → Reading Expr
  | 0 => unexpected
  | steps + 1 => do
    match ← peek with
    | .number value _ =>
      advance
      return .number value
    | .text value _ =>
      advance
      return .text value
    | .pattern written =>
      let found ← pattern written
      advance
      return found
    | .routine name =>
      advance
      call steps name
    | .builtin name =>
      advance
      builtin steps name
    | .keyword "getline" =>
      advance
      let place? ← tryPlace steps
      if ← tryMark "<" then
        let file ← climb steps false 11
        return .read (.file file) place?
      else return .read .inputs place?
    | .mark "(" =>
      advance
      let first ← expr steps false
      if ← tryMark "," then
        skipAllLines
        let others ← list steps
        expect ")"
        if !(← isKeyword "in") then unexpected
        advance
        return .within (first :: others) (← tableName)
      else
        expect ")"
        return first
    | .name name =>
      if (← get).routines.contains name then
        advance
        if ← isMark "(" then call steps name else unexpected
      else return .place (← place steps)
    | .mark "$" => return .place (← place steps)
    | _ => unexpected

/-- Something that a value can be put into. -/
def place : Nat → Reading Place
  | 0 => unexpected
  | steps + 1 => do
    match ← peek with
    | .name name =>
      advance
      if ← isMark "[" then
        use name .table
        advance
        let index ← list steps
        expect "]"
        return .element name index
      else
        use name .variable
        return .variable name
    | .mark "$" =>
      advance
      match ← peek with
      | .name name =>
        if ["NF", "FS", "RS", "OFMT", "CONVFMT"].contains name then
          return .field (← primary steps false)
        else return .field (← unit steps)
      | .mark mark =>
        if mark == "(" || mark == "$" then return .field (← unit steps)
        else return .field (← primary steps false)
      | _ => return .field (← unit steps)
    | .mark "(" =>
      advance
      let inner ← place steps
      expect ")"
      return inner
    | _ => unexpected

/-- Something that a value can be put into, if it comes next. -/
def tryPlace : Nat → Reading (Option Place)
  | 0 => return none
  | steps + 1 => do
    match ← peek with
    | .name _ | .mark "$" => return some (← place steps)
    | _ => return none

/-- Values with commas between them. -/
def list : Nat → Reading (List Expr)
  | 0 => unexpected
  | steps + 1 => do
    let first ← expr steps false
    if ← tryMark "," then
      skipAllLines
      return first :: (← list steps)
    else return [first]

/-- An argument: a name alone may stand for a table. -/
def argument : Nat → Reading Expr
  | 0 => unexpected
  | steps + 1 => do
    match (← get).rest with
    | ⟨.name name, _, _, _, _⟩ :: ⟨.mark mark, _, _, _, _⟩ :: _ =>
      if (mark == "," || mark == ")") && !(← get).routines.contains name then
        advance
        return .place (.variable name)
      else expr steps false
    | _ => expr steps false

/-- Arguments up to a closing parenthesis. -/
def arguments : Nat → Reading (List Expr)
  | 0 => unexpected
  | steps + 1 => do
    let first ← argument steps
    if ← tryMark "," then
      skipAllLines
      return first :: (← arguments steps)
    else
      expect ")"
      return [first]

/-- The arguments of a routine of the program. -/
def call : Nat → String → Reading Expr
  | 0, _ => unexpected
  | steps + 1, name => do
    let line := (← word).line
    expect "("
    let args ← if ← tryMark ")" then pure [] else arguments steps
    modify fun p => { p with called := p.called ++ [(name, args.length, line)] }
    return .call name args

/-- The arguments of a routine that every program has. -/
def builtin : Nat → String → Reading Expr
  | 0, _ => unexpected
  | steps + 1, name => do
    let (least, most) := argumentCounts name
    let isGiven ← isMark "("
    if !isGiven && name == "length" then return .builtin name []
    expect "("
    let args ← if ← tryMark ")" then pure [] else arguments steps
    if args.length < 2 && ["split", "sub", "gsub"].contains name then
      fail "syntax error at or near )"
    if args.length < least || most < args.length then
      fail ("wrong number of arguments in call to " ++ name)
    match name, args with
    | "split", [text, .place (.variable table)] =>
      use table .table
      return .builtin name [text, .place (.variable table)]
    | "split", [text, .place (.variable table), separator] =>
      use table .table
      return .builtin name [text, .place (.variable table), separator]
    | "match", [text, wanted] => return .builtin name [text, ← asPattern wanted]
    | "sub", wanted :: others => return .builtin name ((← asPattern wanted) :: others)
    | "gsub", wanted :: others => return .builtin name ((← asPattern wanted) :: others)
    | _, _ => return .builtin name args

end

/-! ## Statements -/

/-- Read the end of a statement. -/
def endStatement : Reading Unit := do
  match ← peek with
  | .mark ";" | .lineEnd =>
    advance
    skipAllLines
  | .mark "\x7d" => pure ()
  | _ => unexpected

/-- Whether a token ends what is printed. -/
def endsPrinted : Token → Bool
  | .mark mark => [";", "\x7d", ">", ">>", "|"].contains mark
  | .lineEnd | .finish => true
  | _ => false

/-- Values in parentheses that are printed, if nothing follows them. -/
def grouped? (steps : Nat) : Reading (Option (List Expr)) := do
  if !(← tryMark "(") then return none
  let args ← list steps
  expect ")"
  return if endsPrinted (← peek) then some args else none

/-- Values to be printed with commas between them. -/
def printed : Nat → Reading (List Expr)
  | 0 => unexpected
  | steps + 1 => do
    let first ← expr steps true
    if ← tryMark "," then
      skipAllLines
      return first :: (← printed steps)
    else return [first]

/-- The values to be printed. -/
def printedAll (steps : Nat) : Reading (List Expr) := do
  if endsPrinted (← peek) then return []
  let before ← get
  match (grouped? steps).run before with
  | .ok (some args, after) =>
    set after
    return args
  | _ => printed steps

/-- Where output goes, if that is said. -/
def direction? : Token → Option Direction
  | .mark ">" => some .file
  | .mark ">>" => some .fileEnd
  | .mark "|" => some .command
  | _ => none

mutual

/-- A statement with its end. -/
def statement : Nat → Reading Statement
  | 0 => unexpected
  | steps + 1 => do
    match ← peek with
    | .mark "\x7b" => block steps
    | .mark ";" | .lineEnd =>
      endStatement
      return .nothing
    | .mark "\x7d" => return .nothing
    | .keyword keyword =>
      match keyword with
      | "getline" =>
        let value ← expr steps false
        endStatement
        return .expression value
      | "print" | "printf" =>
        advance
        let args ← printedAll steps
        if keyword == "printf" && args.isEmpty then fail "no arguments in call to printf"
        let goal? ← match direction? (← peek) with
          | some direction =>
            advance
            pure (some (direction, ← expr steps false))
          | none => pure none
        endStatement
        return .print (keyword == "printf") args goal?
      | "if" =>
        advance
        expect "("
        let test ← expr steps false
        expect ")"
        skipAllLines
        let first ← statement steps
        if ← isKeyword "else" then
          advance
          skipAllLines
          return .choice test first (some (← statement steps))
        else return .choice test first none
      | "while" =>
        advance
        expect "("
        let test ← expr steps false
        expect ")"
        if ← tryMark ";" then
          skipAllLines
          return .loop (some test) false none .nothing
        skipAllLines
        return .loop (some test) false none (← body steps)
      | "do" =>
        advance
        skipAllLines
        let repeated ← body steps
        if !(← isKeyword "while") then unexpected
        advance
        expect "("
        let test ← expr steps false
        expect ")"
        endStatement
        return .loop (some test) true none repeated
      | "for" =>
        advance
        expect "("
        loop steps
      | "break" | "continue" =>
        if (← get).loops = 0 then fail (keyword ++ " statement outside of loop")
        advance
        endStatement
        return if keyword == "break" then .leave else .again
      | "next" | "nextfile" =>
        if !(← get).hasRecords then fail ("improper use of " ++ keyword)
        advance
        endStatement
        return if keyword == "next" then .next else .nextFile
      | "exit" =>
        advance
        let status? ← optional steps
        endStatement
        return .quit status?
      | "return" =>
        if (← get).locals?.isNone then fail "return outside function body"
        advance
        let value? ← optional steps
        endStatement
        return .giveBack value?
      | "delete" =>
        advance
        let table ← tableName
        let index? ← if ← tryMark "[" then
            let index ← list steps
            expect "]"
            pure (some index)
          else pure none
        endStatement
        return .erase table index?
      | _ => unexpected
    | _ =>
      let value ← expr steps false
      endStatement
      return .expression value

/-- A statement that is repeated. -/
def body : Nat → Reading Statement
  | 0 => unexpected
  | steps + 1 => do
    modify fun p => { p with loops := p.loops + 1 }
    let found ← statement steps
    modify fun p => { p with loops := p.loops - 1 }
    return found

/-- A value, if one comes before the end of a statement. -/
def optional : Nat → Reading (Option Expr)
  | 0 => unexpected
  | steps + 1 => do
    if startsValue (← peek) then return some (← expr steps false) else return none

/-- What follows the opening parenthesis of a loop. -/
def loop : Nat → Reading Statement
  | 0 => unexpected
  | steps + 1 => do
    match (← get).rest with
    | ⟨.name name, _, _, _, _⟩ :: ⟨.keyword "in", _, _, _, _⟩ :: ⟨.name _, _, _, _, _⟩ ::
        ⟨.mark ")", _, _, _, _⟩ :: _ =>
      use name .variable
      advance
      advance
      let table ← tableName
      expect ")"
      skipAllLines
      return .each name table (← body steps)
    | _ =>
      let first? ← optional steps
      expect ";"
      skipAllLines
      let test? ← optional steps
      expect ";"
      skipAllLines
      let step? ← optional steps
      expect ")"
      let repeated ← if ← tryMark ";" then
          skipAllLines
          pure .nothing
        else
          skipAllLines
          body steps
      let all := Statement.loop test? false step? repeated
      return match first? with
        | some first => .block [.expression first, all]
        | none => all

/-- Statements in braces. -/
def block : Nat → Reading Statement
  | 0 => unexpected
  | steps + 1 => do
    expect "\x7b"
    skipAllLines
    let found ← statements steps
    expect "\x7d"
    skipAllLines
    return .block found

/-- Statements up to a closing brace. -/
def statements : Nat → Reading (List Statement)
  | 0 => unexpected
  | steps + 1 => do
    match ← peek with
    | .mark "\x7d" => return []
    | .finish => unexpected
    | _ =>
      let first ← statement steps
      return first :: (← statements steps)

end

/-! ## Programs -/

/-- The names of parameters up to a closing parenthesis; none of them is that of the routine. -/
def parameters (own : String) : Nat → List String → Reading (List String)
  | 0, _ => unexpected
  | steps + 1, found => do
    match ← peek with
    | .name name =>
      if found.contains name then fail (name ++ " is duplicated in argument list")
      if name == own then
        let line := (← word).line
        throw [aboutLine line "function parameter cannot be the function",
          aboutLine line ("syntax error at or near " ++ name)]
      advance
      if ← tryMark "," then
        skipAllLines
        parameters own steps (found ++ [name])
      else
        expect ")"
        return found ++ [name]
    | _ => unexpected

/-- A routine after the word that announces it. -/
def routine (steps : Nat) : Reading Routine := do
  let name ← match ← peek with
    | .name name => pure name
    | .routine name => pure name
    | _ => unexpected
  if (← get).usages.contains name then fail ("illegal reference to variable " ++ name)
  advance
  expect "("
  let params ← if ← tryMark ")" then pure [] else parameters name steps []
  skipAllLines
  modify fun p =>
    { p with
      routines := p.routines.set name params.length, locals? := some params, hasRecords := true }
  let body ← block steps
  modify fun p => { p with locals? := none }
  return ⟨name, params, body⟩

/-- The rule that comes next. -/
def rule (steps : Nat) : Reading Rule := do
  match ← peek with
  | .keyword "BEGIN" =>
    advance
    modify fun p => { p with hasRecords := false }
    return ⟨.start, ← block steps⟩
  | .keyword "END" =>
    advance
    modify fun p => { p with hasRecords := false }
    return ⟨.finish, ← block steps⟩
  | .mark "\x7b" =>
    modify fun p => { p with hasRecords := true }
    return ⟨.always, ← block steps⟩
  | _ =>
    modify fun p => { p with hasRecords := true }
    let first ← expr steps false
    let occasion ← if ← tryMark "," then
        skipAllLines
        pure (.range first (← expr steps false))
      else pure (.records first)
    if ← isMark "\x7b" then return ⟨occasion, ← block steps⟩
    match ← peek with
    | .mark ";" | .lineEnd | .finish =>
      advance
      skipAllLines
      return ⟨occasion, .print false [] none⟩
    | _ => unexpected

/-- Rules and routines up to the end. -/
def program : Nat → Program → Reading Program
  | 0, _ => unexpected
  | steps + 1, found => do
    match ← peek with
    | .finish => return found
    | .keyword keyword =>
      if keyword == "function" then
        advance
        let more ← routine steps
        discard (tryMark ";")
        skipAllLines
        program steps { found with routines := found.routines ++ [more] }
      else withRule steps found
    | _ => withRule steps found
where
  /-- The rule that comes next, and all that follows it. -/
  withRule (steps : Nat) (found : Program) : Reading Program := do
    let more ← rule steps
    discard (tryMark ";")
    skipAllLines
    program steps { found with rules := found.rules ++ [more] }

/-- Complaints about the calls of routines. -/
def checkCalls (p : Progress) : List String :=
  p.called.filterMap fun (name, count, line) =>
    match p.routines.get? name with
    | none =>
      let last := (p.rest.getLast?.map Word.line).getD p.line
      some (aboutLine last ("function " ++ name ++ " never defined"))
    | some most =>
      if most < count then some (aboutLine line ("too many arguments in call to " ++ name))
      else none

end Reading

/-- The program that a text spells, or what is wrong with it. -/
def read (text : List Char) : Except (List String) Program :=
  let words := scan text
  let begun : Progress := ⟨words, [], 1, .empty, none, .empty, [], 0, true⟩
  let steps := 20 * words.length + 100
  match (do Reading.skipAllLines; Reading.program steps ⟨[], []⟩ : Reading Program).run begun with
  | .error complaints => .error complaints
  | .ok (found, p) =>
    let last := (p.rest.head?.map Word.complaints).getD []
    let complaints := p.complaints ++ last ++ Reading.checkCalls p
    if complaints.isEmpty then .ok found else .error complaints

end Record
end TaskScript
