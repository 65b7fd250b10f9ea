import TaskScript.Bindings
import TaskScript.Shell.Syntax

/-!
# Reader — from the text of commands to programs

`Reader.command?` reads the commands up to the end of a line, which may take more lines if something
is left open, so that they can be carried out before the rest of the text is read.  What is wrong
with a text is a `Problem`.

Words are read character by character in a `Mode` that says what ends them and which characters have
a meaning.  A rule of the grammar is entered a bounded number of times for each character, which
bounds the steps.
-/

namespace TaskScript
namespace Shell

/-- What is wrong with a text, in which line, and how much of the text had not been read. -/
structure Problem where
  message : String
  line : Nat
  left : Nat
  deriving DecidableEq, Repr

namespace Reader

/-! ## Tokens -/

/-- What the text of commands is made of. -/
inductive Token
  | word
  | redirection
  | newline
  | semicolon
  | doubleSemicolon
  | ampersand
  | and
  | or
  | pipe
  | openParen
  | closeParen
  /-- A word with a meaning of its own. -/
  | reserved (text : String)
  | finish
  deriving DecidableEq, Repr

/-- A token as messages name it. -/
def Token.wording : Token → String
  | word => "word"
  | redirection => "redirection"
  | newline => "newline"
  | semicolon => "\";\""
  | doubleSemicolon => "\";;\""
  | ampersand => "\"&\""
  | and => "\"&&\""
  | or => "\"||\""
  | pipe => "\"|\""
  | openParen => "\"(\""
  | closeParen => "\")\""
  | reserved text => "\"" ++ text ++ "\""
  | finish => "end of file"

/-- The words with a meaning of their own. -/
def reservedWords : List String :=
  ["!", "case", "do", "done", "elif", "else", "esac", "fi", "for", "if", "in", "then", "until",
    "while", "\x7b", "\x7d"]

/-- Whether a token ends a list of commands. -/
def Token.endsList : Token → Bool
  | finish | closeParen | doubleSemicolon => true
  | reserved text => ["do", "done", "elif", "else", "esac", "fi", "then", "\x7d"].contains text
  | _ => false

/-- The commands that belong to the shell in such a way that no function may have their name. -/
def specialNames : List String :=
  [".", ":", "break", "continue", "eval", "exec", "exit", "export", "local", "readonly", "return",
    "set", "shift", "times", "trap", "unset"]

/-! ## The state of reading -/

/-- A redirection whose goal is still to be read. -/
inductive Announced
  | toward (direction : Direction)
  | document (stripsTabs : Bool)
  deriving DecidableEq, Repr

/-- A document that is announced and follows after the end of the line. -/
structure Awaited where
  number : Nat
  mark : String
  stripsTabs : Bool
  expands : Bool
  deriving DecidableEq, Repr

/-- The state of reading. -/
structure State where
  rest : List Char
  line : Nat
  /-- The token read last, and whether it is to be read once more. -/
  token : Token
  again : Bool
  /-- The word read last. -/
  word : Word
  /-- The descriptor and the kind of the redirection read last. -/
  announced : Nat × Announced
  awaited : List Awaited
  /-- The document that is being read, and the text that follows it, known when its end is met. -/
  document? : Option Awaited
  beyond : List Char
  /-- The documents that have been read, by their numbers. -/
  documents : List (Nat × Word)
  nextDocument : Nat
  aliases : Bindings String
  /-- The aliases whose text is being read, and how much text is left after each. -/
  active : List (String × Nat)

/-- What reading gives, mostly together with the state after it. -/
abbrev Reads := Except Problem

namespace State

/-- Reading a text from its first line on. -/
def start (text : List Char) (line nextDocument : Nat) (aliases : Bindings String) : State :=
  { rest := text, line, token := .newline, again := false, word := []
    announced := (0, .toward .source), awaited := [], document? := none, beyond := []
    documents := [], nextDocument, aliases, active := [] }

/-- Read the last token once more. -/
def back (s : State) : State := { s with again := true }

/-- Give up. -/
def fail {α : Type} (s : State) (message : String) : Reads α :=
  .error ⟨"Syntax error: " ++ message, s.line, s.rest.length⟩

/-- Give up at the last token. -/
def unexpected {α : Type} (s : State) : Reads α :=
  s.fail (s.token.wording ++ " unexpected")

/-- Give up at the last token, where another one would do. -/
def expecting {α : Type} (s : State) (token : Token) : Reads α :=
  s.fail (s.token.wording ++ " unexpected (expecting " ++ token.wording ++ ")")

/-- The text after escaped ends of lines, which count for nothing. -/
def unfolded (s : State) : State :=
  go s.rest s.line
where
  go : List Char → Nat → State
    | '\\' :: '\n' :: rest, line => go rest (line + 1)
    | rest, line => { s with rest, line }

/-- Pass over a character. -/
def passing (s : State) (rest : List Char) : State := { s with rest }

/-- Pass over the end of a line. -/
def passingLine (s : State) (rest : List Char) : State := { s with rest, line := s.line + 1 }

/-- Pass over a text that may hold ends of lines. -/
def passingText (s : State) (text rest : List Char) : State :=
  { s with rest, line := s.line + text.count '\n' }

/-- Begin a line.  In a document the text ends before a line that is its mark, and tabs may be left
out.  An escaped end of a line counts for nothing, but after such tabs it stands for itself; then it
is given in reverse. -/
def beginningLine (s : State) : Word × State :=
  match s.document? with
  | none => ([], s)
  | some document =>
    let s := s.unfolded
    let mark := document.mark.toList
    let written := if document.stripsTabs then s.rest.dropWhile (· == '\t') else s.rest
    let after := written.drop mark.length
    if written.take mark.length == mark && (after.isEmpty || after.head? == some '\n') then
      ([], { s with rest := [], beyond := after.drop 1, line := s.line + 1 })
    else
      match written with
      | '\\' :: '\n' :: rest => ([.char '\n' true, .char '\\' true], s.passing rest)
      | _ => ([], s.passing written)

end State

/-! ## Characters -/

/-- Whether a parameter name may begin with a character. -/
def beginsName (c : Char) : Bool := c.isAlpha || c == '_'

/-- Whether a character may stand in a parameter name. -/
def inName (c : Char) : Bool := c.isAlphanum || c == '_'

/-- Whether a text is a parameter name. -/
def isName (text : String) : Bool :=
  match text.toList with
  | c :: rest => beginsName c && rest.all inName
  | [] => false

/-- Whether a character is the name of a special parameter. -/
def isSpecial (c : Char) : Bool := "@*#?-$!0".toList.contains c || c.isDigit

/-- Whether a character ends a word. -/
def endsWord (c : Char) : Bool := " \t\n;&|<>()".toList.contains c

/-- The characters of a class, with escaped ends of lines left out, and what follows. -/
def takeRun (ok : Char → Bool) : Nat → List Char → State → List Char × State
  | 0, reversed, s => (reversed.reverse, s)
  | steps + 1, reversed, s =>
    let s := s.unfolded
    match s.rest with
    | c :: rest =>
      if ok c then takeRun ok steps (c :: reversed) (s.passing rest) else (reversed.reverse, s)
    | [] => (reversed.reverse, s)

/-- The assignment that a word is: a name, and the word after the equals sign. -/
def assignment? (word : Word) : Option (String × Word) :=
  let name := word.takeWhile fun
    | .char c false => inName c
    | _ => false
  match Word.bareText? name, word.drop name.length with
  | some text, .char '=' false :: value => if isName text then some (text, value) else none
  | _, _ => none

/-! ## Modes -/

/-- Where a word stands that is being read. -/
inductive Mode
  /-- Among the commands. -/
  | plain
  /-- After the sign that announces a document. -/
  | mark
  /-- Within braces, outside double quotes. -/
  | braced
  /-- Within double quotes. -/
  | double
  /-- Within braces that stand within double quotes. -/
  | doubleBraced
  /-- Within double quotes in such braces. -/
  | doubleInner
  /-- Within a document. -/
  | document
  /-- Within a numeric expression, and so many parentheses in it. -/
  | numeric (depth : Nat)
  deriving DecidableEq, Repr

namespace Mode

/-- Whether characters in a mode are quoted. -/
def quotes : Mode → Bool
  | plain | mark | braced => false
  | double | doubleBraced | doubleInner | document | numeric _ => true

/-- Whether a backslash before a character takes its meaning away.  Where it does not, it stands for
itself. -/
def escapes (mode : Mode) (inDocument : Bool) (c : Char) : Bool :=
  match mode with
  | plain | mark | braced => true
  | document => c == '\\' || c == '$' || c == '\x60'
  | double => c == '\\' || c == '$' || c == '\x60' || c == '"'
  | numeric _ => c == '\\' || c == '$' || c == '\x60' || (c == '"' && !inDocument)
  | doubleBraced | doubleInner =>
    c == '\\' || c == '$' || c == '\x60' || c == '"' || c == '\x7d'

/-- What is wrong if the text ends, if anything is. -/
def unfinished? (mode : Mode) (inDocument : Bool) : Option String :=
  match mode with
  | plain | mark | document => none
  | braced => some "Missing '\x7d'"
  | double | doubleBraced | doubleInner =>
    some (if inDocument then "Missing '\x7d'" else "Unterminated quoted string")
  | numeric _ => some "Missing '))'"

end Mode

/-- Which words and line ends a token may be. -/
structure Kinds where
  skipsLines : Bool
  reserved : Bool
  aliases : Bool

/-- Any word is a word. -/
def wordsOnly : Kinds := ⟨false, false, false⟩

/-- The beginning of a command. -/
def commandStart : Kinds := ⟨false, true, true⟩

/-- The beginning of a command, perhaps in a later line. -/
def laterStart : Kinds := ⟨true, true, true⟩

/-- How a list of commands may end. -/
inductive Extent
  /-- At the end of a line. -/
  | line
  /-- At a closing token, after at least one command. -/
  | someCommands
  /-- At a closing token. -/
  | anyCommands
  deriving DecidableEq, Repr

/-- The text of a quotation in backquotes with its escapes resolved, and what follows. -/
def backquoted (quoted : Bool) : Nat → List Char → State → Reads (List Char × State)
  | 0, _, s => s.fail "EOF in backquote substitution"
  | steps + 1, reversed, s =>
    let s := s.unfolded
    match s.rest with
    | '\\' :: c :: rest =>
      let bare := c == '\\' || c == '\x60' || c == '$' || (quoted && c == '"')
      backquoted quoted steps (if bare then c :: reversed else c :: '\\' :: reversed)
        (s.passing rest)
    | c :: rest =>
      if c == '\x60' then .ok (reversed.reverse, s.passing rest)
      else if c == '\n' then backquoted quoted steps (c :: reversed) (s.passingLine rest)
      else backquoted quoted steps (c :: reversed) (s.passing rest)
    | [] => s.fail "EOF in backquote substitution"

/-- The lines of a document that is taken as it is up to its mark, and what follows. -/
def documentLines (awaited : Awaited) : Nat → List Char → State → List Char × State
  | 0, reversed, s => (reversed.reverse, s)
  | steps + 1, reversed, s =>
    if s.rest.isEmpty then (reversed.reverse, s)
    else
      let written := s.rest.takeWhile (· != '\n')
      let after := s.rest.drop written.length
      let line := if awaited.stripsTabs then written.dropWhile (· == '\t') else written
      let s := s.passingText (after.take 1) (after.drop 1)
      if line == awaited.mark.toList then (reversed.reverse, s)
      else documentLines awaited steps (after.take 1 ++ line.reverse ++ reversed) s

/-- The kind of a redirection, given the sign with which it begins and what follows. -/
def redirectionKind (sign : Char) (s : State) : (Nat × Announced) × State :=
  let s := s.unfolded
  if sign == '>' then
    match s.rest with
    | '>' :: rest => ((1, .toward .appending), s.passing rest)
    | '|' :: rest => ((1, .toward .overriding), s.passing rest)
    | '&' :: rest => ((1, .toward .duplicate), s.passing rest)
    | _ => ((1, .toward .replacing), s)
  else
    match s.rest with
    | '<' :: rest =>
      let s := (s.passing rest).unfolded
      match s.rest with
      | '-' :: rest => ((0, .document true), s.passing rest)
      | _ => ((0, .document false), s)
    | '&' :: rest => ((0, .toward .duplicate), s.passing rest)
    | '>' :: rest => ((0, .toward .both), s.passing rest)
    | _ => ((0, .toward .source), s)

/-- The change that the text after the name of a parameter announces, given the word that will be
read for it; the mode in which that is read, and what follows.  `none` stands for no change. -/
def modifierSign (inner : Mode) (s : State) : Option ((Word → Modifier) × Mode) × State :=
  let s := s.unfolded
  let trim (atEnd : Bool) (sign : Char) (rest : List Char) :
      Option ((Word → Modifier) × Mode) × State :=
    let s := (s.passing rest).unfolded
    match s.rest with
    | c :: more =>
      if c == sign then (some (Modifier.without atEnd true, .braced), s.passing more)
      else (some (Modifier.without atEnd false, .braced), s)
    | [] => (some (Modifier.without atEnd false, .braced), s)
  let valued (colon : Bool) (s : State) : Option ((Word → Modifier) × Mode) × State :=
    match s.rest with
    | '-' :: rest => (some (Modifier.orElse colon, inner), s.passing rest)
    | '+' :: rest => (some (Modifier.ifSet colon, inner), s.passing rest)
    | '?' :: rest => (some (Modifier.orFail colon, inner), s.passing rest)
    | '=' :: rest => (some (Modifier.orAssign colon, inner), s.passing rest)
    | c :: rest =>
      if c == '\x7d' then (if colon then some (fun _ => .unknown, inner) else none, s.passing rest)
      else (some (fun _ => .unknown, inner), s.passing rest)
    | [] => (some (fun _ => .unknown, inner), s)
  match s.rest with
  | '%' :: rest => trim true '%' rest
  | '#' :: rest => trim false '#' rest
  | ':' :: rest => valued true (s.passing rest).unfolded
  | _ => valued false s

/-! ## Rules -/

mutual

/-- The parts of a word in a mode, after those already read. -/
def parts : Nat → Mode → List Part → State → Reads (Word × State)
  | 0, _, _, s => s.fail "too deep"
  | steps + 1, mode, reversed, s => do
    let s := s.unfolded
    let plain (c : Char) (rest : List Char) : Reads (Word × State) :=
      let s := s.passingText [c] rest
      let (kept, s) := if c == '\n' then s.beginningLine else ([], s)
      parts steps mode (kept ++ .char c mode.quotes :: reversed) s
    match s.rest with
    | [] =>
      match mode.unfinished? s.document?.isSome with
      | some message => s.fail message
      | none => return (reversed.reverse, s)
    | c :: rest =>
      let outside := mode == .plain || mode == .mark
      if outside && endsWord c then return (reversed.reverse, s)
      else if c == '\\' then
        match rest with
        | [] => parts steps mode (.char '\\' true :: reversed) (s.passing [])
        | d :: more =>
          let s := s.passingText [d] more
          if mode.escapes s.document?.isSome d then parts steps mode (.char d true :: reversed) s
          else parts steps mode (.char d true :: .char '\\' true :: reversed) s
      else if c == '\'' && !mode.quotes then
        let inside := rest.takeWhile (· != '\'')
        match rest.drop inside.length with
        | _ :: more =>
          parts steps mode ((inside.map fun d => Part.char d true).reverse ++ .quotes :: reversed)
            (s.passingText inside more)
        | [] => (s.passingText inside []).fail "Unterminated quoted string"
      else if c == '"' then
        match mode with
        | .plain | .mark | .braced =>
          let (inside, s) ← parts steps .double [] (s.passing rest)
          parts steps mode (inside.reverse ++ .quotes :: reversed) s
        | .doubleBraced =>
          let (inside, s) ← parts steps .doubleInner [] (s.passing rest)
          parts steps mode (inside.reverse ++ .quotes :: reversed) s
        | .double | .doubleInner => return (reversed.reverse, s.passing rest)
        | .document | .numeric _ => plain c rest
      else if c == '\x7d' && (mode == .braced || mode == .doubleBraced) then
        return (reversed.reverse, s.passing rest)
      else if c == '$' && mode != .mark then
        let (found, s) ← dollar steps mode (s.passing rest)
        parts steps mode (found :: reversed) s
      else if c == '\x60' && mode != .mark then
        let (text, s) ← backquoted mode.quotes (steps + 1) [] (s.passing rest)
        let (program, inner) ← list steps .anyCommands none
          { State.start text 1 s.nextDocument s.aliases with documents := s.documents }
        parts steps mode (.output (program.getD .nothing) mode.quotes :: reversed)
          { s with documents := inner.documents, nextDocument := inner.nextDocument }
      else
        match mode, c with
        | .numeric depth, '(' =>
          parts steps (.numeric (depth + 1)) (.char c true :: reversed) (s.passing rest)
        | .numeric (depth + 1), ')' =>
          parts steps (.numeric depth) (.char c true :: reversed) (s.passing rest)
        | .numeric 0, ')' =>
          let after := (s.passing rest).unfolded
          match after.rest with
          | ')' :: more => return (reversed.reverse, after.passing more)
          | _ => plain c rest
        | _, _ => plain c rest

/-- What a dollar sign stands for, given the text after it. -/
def dollar : Nat → Mode → State → Reads (Part × State)
  | 0, _, s => s.fail "too deep"
  | steps + 1, mode, s => do
    let s := s.unfolded
    let quoted := mode.quotes
    match s.rest with
    | '(' :: rest =>
      let s := (s.passing rest).unfolded
      match s.rest with
      | '(' :: rest =>
        let (expression, s) ← parts steps (.numeric 0) [] (s.passing rest)
        return (.number expression quoted, s)
      | _ =>
        let (program, inner) ← list steps .anyCommands none
          { s with awaited := [], again := false, document? := none }
        let (token, inner) ← token steps wordsOnly inner
        if token != .closeParen then inner.expecting .closeParen
        else
          let missing := inner.awaited.map fun awaited => (awaited.number, ([] : Word))
          return (.output (program.getD .nothing) quoted,
            { inner with
              awaited := s.awaited, document? := s.document?
              documents := missing ++ inner.documents })
    | c :: rest =>
      if c == '\x7b' then braced steps mode (s.passing rest).unfolded
      else if beginsName c then
        let (name, s) := takeRun inName (s.rest.length + 1) [] s
        return (.parameter (String.ofList name) .plain quoted, s)
      else if isSpecial c then
        return (.parameter (String.singleton c) .plain quoted, s.passing rest)
      else
        return (.char '$' quoted, s)
    | [] => return (.char '$' quoted, s)

/-- The parameter described between braces. -/
def braced : Nat → Mode → State → Reads (Part × State)
  | 0, _, s => s.fail "too deep"
  | steps + 1, mode, s => do
    let quoted := mode.quotes
    let inner : Mode := if quoted then .doubleBraced else .braced
    let named (s : State) : Option String × State :=
      match s.rest with
      | c :: rest =>
        if beginsName c then
          let (name, s) := takeRun inName (s.rest.length + 1) [] s
          (some (String.ofList name), s)
        else if c.isDigit then
          let (name, s) := takeRun Char.isDigit (s.rest.length + 1) [] s
          (some (String.ofList name), s)
        else if isSpecial c then (some (String.singleton c), (s.passing rest).unfolded)
        else (none, s)
      | [] => (none, s)
    let changed (name : String) (s : State) : Reads (Part × State) :=
      match modifierSign inner s with
      | (none, s) => return (.parameter name .plain quoted, s)
      | (some (change, mode), s) => do
        let (word, s) ← parts steps mode [] s
        return (.parameter name (change word) quoted, s)
    let broken (s : State) : Reads (Part × State) := do
      let (_, s) ← parts steps inner [] s
      return (.parameter "" .unknown quoted, s)
    match s.rest with
    | '#' :: rest =>
      let after := (s.passing rest).unfolded
      match after.rest with
      | c :: more =>
        let closes (s : State) : Bool := s.rest.head? == some '\x7d'
        if inName c then
          match named after with
          | (some name, s) =>
            if closes s then return (.parameter name .length quoted, s.passing (s.rest.drop 1))
            else broken s
          | (none, s) => broken s
        else if c != '\x7d' && closes (after.passing more).unfolded then
          let s := (after.passing more).unfolded
          if isSpecial c then
            return (.parameter (String.singleton c) .length quoted, s.passing (s.rest.drop 1))
          else broken s
        else changed "#" after
      | [] => changed "#" after
    | _ =>
      match named s with
      | (some name, s) => changed name s
      | (none, s) => broken s

/-- Read the documents that are awaited. -/
def documents : Nat → State → Reads (Unit × State)
  | 0, s => s.fail "too deep"
  | steps + 1, s =>
    match s.awaited with
    | [] => return ((), s)
    | awaited :: others => do
      let s := { s with awaited := others }
      let (word, s) ←
        if awaited.expands then do
          let (kept, inner) := { s with document? := some awaited }.beginningLine
          let (word, inner) ← parts steps .document kept inner
          pure (word, { inner with
            rest := inner.beyond, beyond := [], document? := none
            token := s.token, again := s.again })
        else
          let (text, s) := documentLines awaited (s.rest.length + 1) [] s
          pure (text.map fun c => Part.char c true, s)
      documents steps { s with documents := (awaited.number, word) :: s.documents }

/-- The next token as it is written. -/
def plainToken : Nat → Bool → State → Reads (Token × State)
  | 0, _, s => s.fail "too deep"
  | steps + 1, isMark, s => do
    if s.again then return (s.token, { s with again := false })
    else
      let s := s.unfolded
      let found (token : Token) (s : State) : Reads (Token × State) :=
        return (token, { s with token })
      let twofold (c : Char) (one two : Token) (rest : List Char) : Reads (Token × State) :=
        let after := (s.passing rest).unfolded
        match after.rest with
        | d :: more => if d == c then found two (after.passing more) else found one after
        | [] => found one after
      match s.rest with
      | [] => found .finish s
      | c :: rest =>
        if c == ' ' || c == '\t' then plainToken steps isMark (s.passing rest)
        else if c == '#' then
          plainToken steps isMark (s.passing (rest.dropWhile (· != '\n')))
        else if c == '\n' then found .newline (s.passingLine rest)
        else if c == '&' then twofold '&' .ampersand .and rest
        else if c == '|' then twofold '|' .pipe .or rest
        else if c == ';' then twofold ';' .semicolon .doubleSemicolon rest
        else if c == '(' then found .openParen (s.passing rest)
        else if c == ')' then found .closeParen (s.passing rest)
        else
          let (word, s) ← parts steps (if isMark then .mark else .plain) [] s
          let descriptor? : Option (Option Nat) :=
            match word with
            | [] => some none
            | [.char d false] => if d.isDigit then some (some (d.toNat - '0'.toNat)) else none
            | _ => none
          match s.rest.head?, descriptor? with
          | some sign, some descriptor =>
            if sign == '<' || sign == '>' then
              let ((usual, kind), s) := redirectionKind sign (s.passing (s.rest.drop 1))
              found .redirection { s with announced := (descriptor.getD usual, kind) }
            else
              found .word { s with word }
          | _, _ => found .word { s with word }

/-- The next token; words may be reserved or stand for other texts. -/
def token : Nat → Kinds → State → Reads (Token × State)
  | 0, _, s => s.fail "too deep"
  | steps + 1, kinds, s => do
    let (token', s) ← plainToken steps false s
    if token' == .newline && kinds.skipsLines then
      let (_, s) ← documents steps s
      token steps kinds s
    else if token' != .word then return (token', s)
    else
      match Word.bareText? s.word with
      | none => return (token', s)
      | some text =>
        if kinds.reserved && reservedWords.contains text then
          return (.reserved text, { s with token := .reserved text })
        else if kinds.aliases then
          let active := s.active.filter fun a => a.2 < s.rest.length
          match s.aliases.get? text with
          | some value =>
            if active.any fun a => a.1 == text then return (token', s)
            else
              token steps kinds { s with
                rest := value.toList ++ s.rest
                active := (text, s.rest.length) :: active }
          | none => return (token', s)
        else return (token', s)

/-- Expect a token. -/
def expect : Nat → Kinds → Token → State → Reads (Unit × State)
  | 0, _, _, s => s.fail "too deep"
  | steps + 1, kinds, wanted, s => do
    let (found, s) ← token steps kinds s
    if found == wanted then return ((), s) else s.expecting wanted

/-- Commands, each ended by a separator, after those already read. -/
def list : Nat → Extent → Option Program → State → Reads (Option Program × State)
  | 0, _, _, s => s.fail "too deep"
  | steps + 1, extent, before, s => do
    let kinds : Kinds := ⟨extent != .line, true, true⟩
    let (first, s) ← token steps kinds s
    let atEnd (before : Option Program) (s : State) : Reads (Option Program × State) := do
      let (_, s) ← documents steps s
      return (before, { s.back with token := .finish })
    if first == .newline then
      let (_, s) ← documents steps s
      return (before, s)
    else if first == .finish then atEnd before s
    else if extent == .anyCommands && first.endsList then return (before, s.back)
    else
      let extent := if extent == .line then .line else .anyCommands
      let (program, s) ← joined steps s.back
      let (separator, s) ← token steps wordsOnly s
      let program := if separator == .ampersand then .background program else program
      let all := match before with
        | some before => .sequence before program
        | none => program
      match separator with
      | .finish => atEnd (some all) s
      | .newline => list steps extent (some all) s.back
      | .ampersand | .semicolon => list steps extent (some all) s
      | _ => if extent == .line then s.unexpected else return (some all, s.back)

/-- Commands between tokens, at least one. -/
def body : Nat → State → Reads (Program × State)
  | 0, s => s.fail "too deep"
  | steps + 1, s => do
    let (program, s) ← list steps .someCommands none s
    return (program.getD .nothing, s)

/-- Pipelines joined by `&&` and `||`. -/
def joined : Nat → State → Reads (Program × State)
  | 0, s => s.fail "too deep"
  | steps + 1, s => do
    let (first, s) ← pipeline steps wordsOnly s
    joinedTo steps first s

/-- More pipelines after those already read. -/
def joinedTo : Nat → Program → State → Reads (Program × State)
  | 0, _, s => s.fail "too deep"
  | steps + 1, first, s => do
    let (operator, s) ← token steps wordsOnly s
    match operator with
    | .and =>
      let (second, s) ← pipeline steps laterStart s
      joinedTo steps (.both first second) s
    | .or =>
      let (second, s) ← pipeline steps laterStart s
      joinedTo steps (.either first second) s
    | _ => return (first, s.back)

/-- Commands joined by bars. -/
def pipeline : Nat → Kinds → State → Reads (Program × State)
  | 0, _, s => s.fail "too deep"
  | steps + 1, kinds, s => do
    let (first, s) ← token steps kinds s
    let negates := first == .reserved "!"
    let (program, s) ←
      if negates then command steps commandStart s else command steps wordsOnly s.back
    let (others, s) ← piped steps [] s
    let program := if others.isEmpty then program else .pipe (program :: others)
    return (if negates then .negated program else program, s)

/-- The commands after bars. -/
def piped : Nat → List Program → State → Reads (List Program × State)
  | 0, _, s => s.fail "too deep"
  | steps + 1, reversed, s => do
    let (bar, s) ← token steps wordsOnly s
    if bar == .pipe then
      let (program, s) ← command steps laterStart s
      piped steps (program :: reversed) s
    else
      return (reversed.reverse, s.back)

/-- One command. -/
def command : Nat → Kinds → State → Reads (Program × State)
  | 0, _, s => s.fail "too deep"
  | steps + 1, kinds, s => do
    let (first, s) ← token steps kinds s
    let line := s.line
    let closed (program : Program) (closing : Token) (s : State) : Reads (Program × State) := do
      let (_, s) ← expect steps wordsOnly closing s
      let (links, s) ← redirections steps [] s
      return (program.withRedirections line links, s)
    match first with
    | .word | .redirection => simple steps true [] [] [] s.line s.back
    | .openParen =>
      let (program, s) ← body steps s
      let (_, s) ← expect steps wordsOnly .closeParen s
      let (links, s) ← redirections steps [] s
      return (.isolated line program links, s)
    | .reserved text =>
      match text with
      | "if" =>
        let (program, s) ← branches steps s
        closed program (.reserved "fi") s
      | "while" | "until" =>
        let (test, s) ← body steps s
        let (_, s) ← expect steps wordsOnly (.reserved "do") s
        let (program, s) ← body steps s
        closed (.loop (text == "until") test program) (.reserved "done") s
      | "for" =>
        let (next, s) ← token steps wordsOnly s
        match next, Word.bareText? s.word with
        | .word, some name =>
          if !isName name then s.fail "Bad for loop variable"
          else
            let (words, s) ← eachWords steps s
            let (_, s) ← expect steps laterStart (.reserved "do") s
            let (program, s) ← body steps s
            closed (.each line name words program) (.reserved "done") s
        | _, _ => s.fail "Bad for loop variable"
      | "case" =>
        let (_, s) ← expect steps wordsOnly .word s
        let subject := s.word
        let (_, s) ← expect steps laterStart (.reserved "in") s
        let (choices, s) ← arms steps [] s
        let (links, s) ← redirections steps [] s
        let program : Program := .choice line subject choices
        return (program.withRedirections line links, s)
      | _ =>
        if text == "\x7b" then
          let (program, s) ← body steps s
          closed program (.reserved "\x7d") s
        else s.unexpected
    | _ => s.unexpected

/-- The test and the branches of a conditional, up to its end. -/
def branches : Nat → State → Reads (Program × State)
  | 0, s => s.fail "too deep"
  | steps + 1, s => do
    let (test, s) ← body steps s
    let (_, s) ← expect steps wordsOnly (.reserved "then") s
    let (yes, s) ← body steps s
    let (next, s) ← token steps wordsOnly s
    if next == .reserved "elif" then
      let (no, s) ← branches steps s
      return (.branch test yes (some no), s)
    else if next == .reserved "else" then
      let (no, s) ← body steps s
      return (.branch test yes (some no), s)
    else
      return (.branch test yes none, s.back)

/-- The words that a loop goes through; all arguments if none are written. -/
def eachWords : Nat → State → Reads (List Word × State)
  | 0, s => s.fail "too deep"
  | steps + 1, s => do
    let (next, s) ← token steps laterStart s
    if next == .reserved "in" then
      let (words, s) ← moreWords steps [] s
      if s.token == .newline || s.token == .semicolon then return (words, s)
      else s.unexpected
    else
      let words := [[Part.quotes, .parameter "@" .plain true]]
      return (words, if next == .semicolon then s else s.back)

/-- Words up to a token that is none. -/
def moreWords : Nat → List Word → State → Reads (List Word × State)
  | 0, _, s => s.fail "too deep"
  | steps + 1, reversed, s => do
    let (next, s) ← token steps wordsOnly s
    if next == .word then moreWords steps (s.word :: reversed) s
    else return (reversed.reverse, s)

/-- The arms of a choice, up to its end. -/
def arms : Nat → List (List Word × Program) → State → Reads (List (List Word × Program) × State)
  | 0, _, s => s.fail "too deep"
  | steps + 1, reversed, s => do
    let (first, s) ← token steps ⟨true, true, false⟩ s
    if first == .reserved "esac" then return (reversed.reverse, s)
    else
      let (_, s) ← if first == .openParen then token steps wordsOnly s else pure (first, s)
      let (patterns, s) ← patterns steps [s.word] s
      let (program, s) ← list steps .anyCommands none s
      let arm := (patterns, program.getD .nothing)
      let (next, s) ← token steps ⟨true, true, false⟩ s
      if next == .reserved "esac" then return ((arm :: reversed).reverse, s)
      else if next == .doubleSemicolon then arms steps (arm :: reversed) s
      else s.expecting .doubleSemicolon

/-- More patterns after those already read, up to a closing parenthesis. -/
def patterns : Nat → List Word → State → Reads (List Word × State)
  | 0, _, s => s.fail "too deep"
  | steps + 1, reversed, s => do
    let (next, s) ← token steps wordsOnly s
    match next with
    | .pipe =>
      let (_, s) ← token steps wordsOnly s
      patterns steps (s.word :: reversed) s
    | .closeParen => return (reversed.reverse, s)
    | _ => s.expecting .closeParen

/-- The redirections after a command. -/
def redirections : Nat → List Redirection → State → Reads (List Redirection × State)
  | 0, _, s => s.fail "too deep"
  | steps + 1, reversed, s => do
    let (next, s) ← token steps commandStart s
    if next == .redirection then
      let (link, s) ← redirection steps s
      redirections steps (link :: reversed) s
    else
      return (reversed.reverse, s.back)

/-- The redirection that is announced. -/
def redirection : Nat → State → Reads (Redirection × State)
  | 0, s => s.fail "too deep"
  | steps + 1, s => do
    let (descriptor, kind) := s.announced
    let isMark := match kind with
      | .document _ => true
      | .toward _ => false
    let (next, s) ← plainToken steps isMark s
    if next != .word then s.unexpected
    else
      match kind with
      | .document stripsTabs =>
        let awaited : Awaited :=
          { number := s.nextDocument, mark := (Word.plainText? s.word).getD "", stripsTabs
            expands := !Word.hasQuotes s.word }
        return (.to descriptor (.document s.nextDocument) [],
          { s with awaited := s.awaited ++ [awaited], nextDocument := s.nextDocument + 1 })
      | .toward direction => return (.to descriptor direction s.word, s)

/-- The assignments, words and redirections of a command, after those already read. -/
def simple : Nat → Bool → List (String × Word) → List Word → List Redirection → Nat → State →
    Reads (Program × State)
  | 0, _, _, _, _, _, s => s.fail "too deep"
  | steps + 1, aliases, assignments, words, links, line, s => do
    let (next, s) ← token steps ⟨false, false, aliases⟩ s
    match next with
    | .word =>
      match if words.isEmpty then assignment? s.word else none with
      | some a => simple steps true (a :: assignments) words links line s
      | none => simple steps false assignments (s.word :: words) links line s
    | .redirection =>
      let (link, s) ← redirection steps s
      simple steps aliases assignments words (link :: links) line s
    | .openParen =>
      if words.length == 1 && assignments.isEmpty && links.isEmpty then
        let name := ((words.head?.bind Word.plainText?)).getD ""
        let (_, s) ← expect steps wordsOnly .closeParen s
        if !isName name || specialNames.contains name then s.fail "Bad function name"
        else
          let line := s.line
          let (program, s) ← command steps laterStart s
          return (.define name line program, s)
      else
        return (.simple line assignments.reverse words.reverse links.reverse, s.back)
    | _ => return (.simple line assignments.reverse words.reverse links.reverse, s.back)

end

/-! ## Whole texts -/

/-- What reading a line of commands gives. -/
inductive Reading
  /-- Commands, perhaps none, and the state in which reading goes on. -/
  | commands (program : Program) (state : State)
  /-- The end of the text. -/
  | finished
  /-- Something is wrong. -/
  | failed (problem : Problem)

/-- Read the commands up to the end of a line. -/
def nextLine (s : State) : Reading :=
  match list (16 * (s.rest.length + 16)) .line none { s with again := false } with
  | .ok (some program, s) => .commands program s
  | .ok (none, s) => if s.token == .finish then .finished else .commands .nothing s
  | .error problem => .failed problem

end Reader
end Shell
end TaskScript
