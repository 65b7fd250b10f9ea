import TaskScript.EnvFile.Assignment
import TaskScript.File.Store
import TaskScript.Text.Bytes

/-!
# Loading — an environment with what a file adds to it

The lines of a file are put together while a quotation is open or the last character was escaped,
and cut where a comment begins.  A name that has a value in the environment keeps it.

- `EnvFile.scan` : where a line leaves the scanner
- `EnvFile.load` : the environment after all lines of a file
-/

namespace TaskScript
namespace EnvFile

/-! ## Where assignments end -/

/-- Where the scanner of a line stands. -/
inductive Scan
  /-- An assignment may end here. -/
  | complete
  /-- After white space. -/
  | blank
  | escaped
  | single
  | singleEscaped
  | double
  | doubleEscaped
  deriving DecidableEq, Repr

/-- What a character does outside quotations. -/
def Scan.outside (c : Char) : Scan :=
  if c == '\\' then .escaped
  else if c == '"' then .double
  else if c == '\'' then .single
  else .complete

/-- What a character does. -/
def Scan.step (scan : Scan) (c : Char) : Scan :=
  match scan with
  | complete =>
    if CharClass.isBlank c && c != '\n' && c != '\r' then blank else outside c
  | blank => outside c
  | escaped => complete
  | single => if c == '\\' then singleEscaped else if c == '\'' then complete else single
  | singleEscaped => single
  | double => if c == '\\' then doubleEscaped else if c == '"' then complete else double
  | doubleEscaped => double

/-- Where a line leaves the scanner, and the part in front of a comment if one begins after white
space. -/
def scan (state : Scan) : List Char → Scan × Option (List Char)
  | [] => (state, none)
  | c :: rest =>
    if state = .blank && c == '#' then (state, some [])
    else
      let more := scan (state.step c) rest
      (more.1, more.2.map (c :: ·))

/-! ## Loading -/

/-- A line without its end. -/
def withoutEnd (line : List Char) : List Char :=
  match line.reverse with
  | '\n' :: '\r' :: rest => rest.reverse
  | '\n' :: rest => rest.reverse
  | _ => line

/-- The environment with an assignment, unless the name has a value.  No variable can have a value
with the character NUL. -/
def assign (environment : Bindings String) (a : Assignment) : Except EnvFault (Bindings String) :=
  if !environment.contains a.name && a.value.toList.contains '\x00' then
    .error (.unassignable a.name a.value)
  else
    .ok (environment.setIfAbsent a.name a.value)

/-- The environment with what a line adds to it. -/
def add (environment : Bindings String) (line : List Char) : Except EnvFault (Bindings String) :=
  match Assignment.ofLine? environment line with
  | .error fault => .error fault
  | .ok none => .ok environment
  | .ok (some a) => assign environment a

/-- The environment with what lines add to it; `before` is what has been read of a line that goes
on. -/
def addAll (environment : Bindings String) (before : List Char) (state : Scan) :
    List (List UInt8) → Except EnvFault (Bindings String)
  | [] =>
    if state = .complete then .ok environment
    else .error (.malformed (String.ofList before) (Text.byteLength before))
  | bytes :: rest =>
    match String.fromUTF8? ⟨bytes.toArray⟩ with
    | none => .error (.unreadable .invalidUtf8)
    | some text =>
      let all := before ++ text.toList
      if (Text.trimStart all).head? == some '#' then
        addAll environment [] .complete rest
      else
        match scan state text.toList with
        | (_, some kept) =>
          match add environment (before ++ kept) with
          | .ok environment => addAll environment [] .complete rest
          | .error fault => .error fault
        | (.complete, none) =>
          match add environment (withoutEnd all) with
          | .ok environment => addAll environment [] .complete rest
          | .error fault => .error fault
        | (state, none) => addAll environment all state rest

/-- Bytes without the mark that may stand before text. -/
def withoutMark : List UInt8 → List UInt8
  | 0xef :: 0xbb :: 0xbf :: rest => rest
  | bytes => bytes

/-- The environment with what a file adds to it. -/
def load (store : Store) (path : Path) (environment : Bindings String) :
    Except EnvFault (Bindings String) :=
  match store.read path with
  | .error cause => .error (.unreadable cause)
  | .ok bytes => addAll environment [] .complete (Text.byteLines (withoutMark bytes.data.toList))

end EnvFile
end TaskScript
