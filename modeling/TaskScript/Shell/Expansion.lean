import TaskScript.Shell.Field
import TaskScript.Shell.Machine
import TaskScript.Shell.Numeric

/-!
# Expansion — the words a command sees

A word is expanded part by part into marks, which are cut into fields where an expansion outside
quotes left separators; a field that is a pattern for file names stands for the names that fit it.

- `Expansion.marks`   : the expansion of a word, before it is cut
- `Expansion.fields`  : the texts that words stand for
- `Expansion.text`    : the one text that a word stands for where it is not cut
- `Expansion.pattern` : the pattern that a word stands for

How the output of commands is obtained is a parameter, `Capture`.  A word that cannot be expanded
leaves the shell.
-/

namespace TaskScript
namespace Shell
namespace Expansion

/-- How the output of commands is obtained. -/
abbrev Capture := Program → Machine → String × Machine

/-- Where a tilde may stand for a directory. -/
structure Tildes where
  /-- At the beginning of a word. -/
  atStart : Bool
  /-- After colons. -/
  afterColons : Bool
  /-- After the first equals sign. -/
  afterEquals : Bool
  deriving DecidableEq, Repr

namespace Tildes

/-- Nowhere. -/
def nowhere : Tildes := ⟨false, false, false⟩

/-- In a word among others. -/
def inWord : Tildes := ⟨true, false, false⟩

/-- In the value of an assignment. -/
def inValue : Tildes := ⟨true, true, false⟩

/-- In a word that is an assignment. -/
def inAssignment : Tildes := ⟨false, true, true⟩

end Tildes

/-- A text that an expansion gives. -/
def given (quoted : Bool) (text : String) : List Mark :=
  text.toList.map fun c => if quoted then .glyph ⟨c, true⟩ else .loose c

/-- A text without line ends at its end. -/
def dropFinalLines (text : String) : String :=
  String.ofList (text.toList.reverse.dropWhile (· == '\n')).reverse

/-- Marks in which characters of the program text may be cut like those of a value. -/
def loosen (marks : List Mark) : List Mark :=
  marks.map fun
    | .glyph ⟨c, false⟩ => .loose c
    | mark => mark

/-- The characters of marks. -/
def characters (marks : List Mark) : String := String.ofList (marks.filterMap Mark.char?)

/-- The pattern that marks stand for. -/
def wildcards (marks : List Mark) : List Wildcard :=
  let glyphs := marks.filterMap Mark.glyph?
  Wildcard.ofGlyphs glyphs.length glyphs

/-! ## Directories of users -/

/-- The directory of a user, who is nobody in particular if the name is empty. -/
def home? (name : String) (m : Machine) : Option String :=
  if name.isEmpty then m.value? "HOME" else if name == "root" then some "/root" else none

/-- What a tilde at the beginning of a word stands for, if it has a meaning. -/
def tilde (inPaths : Bool) (m : Machine) (word : Word) : Option (List Mark × Word) :=
  match word with
  | .char '~' false :: rest =>
    let name := rest.takeWhile fun
      | .char c false => c != '/' && !(inPaths && c == ':')
      | _ => false
    let after := rest.drop name.length
    let ends := match after with
      | [] => true
      | .char c false :: _ => c == '/' || c == ':'
      | _ => false
    match if ends then (Word.bareText? name).bind (home? · m) else none with
    | some directory => some (given true directory, after)
    | none => none
  | _ => none

/-- The word with its tildes expanded; `steps` is at least its length. -/
def withoutTildes (m : Machine) : Nat → Tildes → Word → Word
  | 0, _, word => word
  | steps + 1, tildes, word =>
    let spent := { tildes with atStart := false }
    match if tildes.atStart then tilde tildes.afterColons m word else none with
    | some (marks, rest) =>
      (marks.filterMap Mark.char?).map (fun c => Part.char c true) ++
        withoutTildes m steps spent rest
    | none =>
      match word with
      | .char ':' false :: rest =>
        .char ':' false :: withoutTildes m steps { tildes with atStart := tildes.afterColons } rest
      | .char '=' false :: rest =>
        .char '=' false ::
          withoutTildes m steps ⟨tildes.afterEquals, tildes.afterColons, false⟩ rest
      | part :: rest => part :: withoutTildes m steps spent rest
      | [] => []

/-- The word with its tildes expanded. -/
def resolveTildes (tildes : Tildes) (m : Machine) (word : Word) : Word :=
  if tildes == .nowhere then word else withoutTildes m (word.length + 1) tildes word

/-! ## Parameters -/

/-- The arguments of the shell where each becomes a field. -/
def separately (quoted : Bool) (m : Machine) : List Mark :=
  ((m.args.map (given quoted)).intersperse [if quoted then .cut else .gap]).flatten

/-- The arguments of the shell as one text. -/
def together (m : Machine) : String :=
  let separator := match m.value? "IFS" with
    | some text => String.ofList (text.toList.take 1)
    | none => " "
  separator.intercalate m.args

/-- The value of a parameter, absent if it is not set. -/
def value? (m : Machine) (name : String) : Option String :=
  if name == "@" || name == "*" then if m.args.isEmpty then none else some (together m)
  else m.parameter? name

/-- The marks that a set parameter stands for. -/
def valueMarks (m : Machine) (name : String) (quoted : Bool) (value : String) : List Mark :=
  if name == "@" || (name == "*" && !quoted) then separately quoted m else given quoted value

/-- How names in numeric expressions are looked up and assigned to. -/
def numericScope : Numeric.Scope Machine :=
  { get := fun name m =>
      match m.value? name with
      | none => .ok 0
      | some text =>
        if text.toList.all Numeral.isSpace then .ok 0
        else
          match Numeral.whole? none text with
          | some n => .ok (Int64.ofInt (Numeral.clamp n))
          | none => .error ("Illegal number: " ++ text)
    set := fun name value m =>
      if m.isFixed name then .error (name ++ ": is read only")
      else .ok (m.put name (toString value.toInt)) }

/-! ## Words -/

/-- The marks of all parts in order, as far as they can be expanded. -/
def inOrder (expand : Part → Machine → List Mark × Machine) (word : Word) (m : Machine) :
    List Mark × Machine :=
  let found := word.foldl (fun (reversed, m) part =>
    if m.flow == .onward then
      let more := expand part m
      (more.1.reverse ++ reversed, more.2)
    else (reversed, m)) ([], m)
  (found.1.reverse, found.2)

/-- The expansion of a part; words within words may be nested to a depth. -/
def partMarks (capture : Capture) (tildes : Tildes) : Nat → Part → Machine → List Mark × Machine
  | 0, _, m => ([], m)
  | depth + 1, part, m =>
    let within (word : Word) : Word := resolveTildes { tildes with atStart := true } m word
    let inner (quoted : Bool) (word : Word) (m : Machine) : List Mark × Machine :=
      let found := inOrder (partMarks capture tildes depth) (if quoted then word else within word) m
      (if quoted then found.1 else loosen found.1, found.2)
    match part with
    | .char c quoted => ([.glyph ⟨c, quoted⟩], m)
    | .quotes => ([.quotes], m)
    | .output program quoted =>
      let found := capture program m
      (given quoted (dropFinalLines found.1), found.2)
    | .number expression quoted =>
      let written := inOrder (partMarks capture .nowhere depth) expression m
      if written.2.flow != .onward then written
      else
        match Numeric.value numericScope (characters written.1) written.2 with
        | .ok (n, m) => (given quoted (toString n.toInt), m)
        | .error problem => ([], written.2.abandon problem 2)
    | .parameter name change quoted =>
      let value := value? m name
      let present (colon : Bool) : Bool :=
        match value with
        | some text => !(colon && text.isEmpty)
        | none => false
      let unset : List Mark × Machine :=
        if m.has 'u' && name != "@" && name != "*" then
          ([], m.abandon (name ++ ": parameter not set") 2)
        else ([], m)
      let whole : List Mark × Machine :=
        match value with
        | some text => (valueMarks m name quoted text, m)
        | none => unset
      match change with
      | .plain => whole
      | .unknown => ([], m.abandon "Bad substitution" 2)
      | .length =>
        match value with
        | some text => (given quoted (toString text.length), m)
        | none => if m.has 'u' then unset else (given quoted "0", m)
      | .orElse colon other => if present colon then whole else inner quoted other m
      | .ifSet colon other => if present colon then inner quoted other m else ([], m)
      | .orAssign colon other =>
        if present colon then whole
        else
          let more := inner quoted other m
          let text := characters more.1
          if !Reader.isName name then
            ([], more.2.abandon (name ++ ": bad variable name") 2)
          else
            let m := more.2.set name text
            (given quoted text, m)
      | .orFail colon other =>
        if present colon then whole
        else if other.isEmpty then
          ([], m.abandon (name ++ ": parameter not set" ++ if colon then " or null" else "") 2)
        else
          let more := inner true other m
          ([], more.2.abandon (name ++ ": " ++ characters more.1) 2)
      | .without atEnd longest other =>
        match value with
        | none => unset
        | some text =>
          let more := inOrder (partMarks capture tildes depth) (within other) m
          let cut := if atEnd then Wildcard.withoutEnd else Wildcard.withoutStart
          (given quoted (String.ofList (cut (wildcards more.1) longest text.toList)), more.2)

/-- Whether a word is nothing but all arguments in double quotes. -/
def isAllArguments (word : Word) : Bool :=
  match word with
  | [.quotes, .parameter "@" .plain true] => true
  | _ => false

/-- The expansion of a word. -/
def marks (capture : Capture) (depth : Nat) (tildes : Tildes) (word : Word) (m : Machine) :
    List Mark × Machine :=
  if isAllArguments word && m.args.isEmpty then ([], m)
  else inOrder (partMarks capture tildes depth) (resolveTildes tildes m word) m

/-- The texts that a word stands for. -/
def wordFields (capture : Capture) (depth : Nat) (word : Word) (m : Machine) :
    List String × Machine :=
  let found := marks capture depth .inWord word m
  let m := found.2
  let fields := Field.cut m.separators found.1
  let texts :=
    if m.has 'f' then fields.map fun field => String.ofList (field.map Glyph.char)
    else fields.flatMap (Wildcard.paths m.store)
  (texts, m)

/-- The one text that a word stands for where it is not cut. -/
def text (capture : Capture) (depth : Nat) (tildes : Tildes) (word : Word) (m : Machine) :
    String × Machine :=
  let found := marks capture depth tildes word m
  (characters found.1, found.2)

/-- The texts that words stand for, as far as they can be expanded. -/
def fields (capture : Capture) (depth : Nat) (words : List Word) (m : Machine) :
    List String × Machine :=
  let found := words.foldl (fun (reversed, m) word =>
    if m.flow == .onward then
      let found := wordFields capture depth word m
      (found.1.reverse ++ reversed, found.2)
    else (reversed, m)) ([], m)
  (found.1.reverse, found.2)

/-- The pattern that a word stands for where texts are compared with it. -/
def pattern (capture : Capture) (depth : Nat) (word : Word) (m : Machine) :
    List Wildcard × Machine :=
  let found := marks capture depth .inWord word m
  (wildcards found.1, found.2)

end Expansion
end Shell
end TaskScript
