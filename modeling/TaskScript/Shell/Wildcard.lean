import TaskScript.File.Store
import TaskScript.Text.Bytes

/-!
# Wildcard — patterns for texts and file names

- `Glyph`            : a character of a word after expansion, and whether it may act in a pattern
- `Wildcard.matches` : whether a text fits a pattern
- `Wildcard.paths`   : the paths that fit a pattern, in the order of their bytes

A name that begins with a period is only met by a pattern that begins with one.
-/

namespace TaskScript
namespace Shell

/-- A character of a word after expansion.  One that was quoted stands for itself. -/
structure Glyph where
  char : Char
  quoted : Bool
  deriving DecidableEq, Repr

/-- A member of a set of characters. -/
inductive Member
  | range (first last : Char)
  /-- A class of characters, by its name. -/
  | kind (name : String)
  deriving DecidableEq, Repr

/-- What a pattern is made of. -/
inductive Wildcard
  | exactly (c : Char)
  | anyOne
  | anyText
  /-- One character that is, or is not, in a set. -/
  | among (inside : Bool) (members : List Member)
  deriving DecidableEq, Repr

namespace Member

/-- Whether an octet is of a class. -/
def isOfKind (name : String) (c : Char) : Bool :=
  let isPunctuation := 33 ≤ c.toNat && c.toNat ≤ 126 && !c.isAlphanum
  match name with
  | "alnum" => c.isAlphanum
  | "alpha" => c.isAlpha
  | "blank" => c == ' ' || c == '\t'
  | "cntrl" => c.toNat < 32 || c.toNat == 127
  | "digit" => c.isDigit
  | "graph" => 33 ≤ c.toNat && c.toNat ≤ 126
  | "lower" => c.isLower
  | "print" => 32 ≤ c.toNat && c.toNat ≤ 126
  | "punct" => isPunctuation
  | "space" => c == ' ' || (9 ≤ c.toNat && c.toNat ≤ 13)
  | "upper" => c.isUpper
  | "xdigit" => c.isDigit || ('a' ≤ c && c ≤ 'f') || ('A' ≤ c && c ≤ 'F')
  | _ => false

/-- The names of the classes. -/
def kinds : List String :=
  ["alnum", "alpha", "blank", "cntrl", "digit", "graph", "lower", "print", "punct", "space",
    "upper",     "xdigit"]

/-- Whether a member stands for a character. -/
def covers (c : Char) : Member → Bool
  | range first last => first ≤ c && c ≤ last
  | kind name => isOfKind name c

end Member

namespace Wildcard

/-- The name of the class that a text begins with, after `[:`, and what follows `:]`. -/
def kind? (text : List Glyph) : Option (String × List Glyph) :=
  Member.kinds.findSome? fun name =>
    let written := name ++ ":]"
    if (text.take written.length).map Glyph.char == written.toList then
      some (name, text.drop written.length)
    else none

/-- The members of a set up to the closing bracket, and what follows it.  A bracket that comes first
is a member. -/
def members? : Nat → Bool → List Member → List Glyph → Option (List Member × List Glyph)
  | 0, _, _, _ => none
  | steps + 1, isFirst, reversed, text =>
    match text with
    | [] => none
    | g :: rest =>
      if g == ⟨']', false⟩ && !isFirst then some (reversed.reverse, rest)
      else
        let single (rest : List Glyph) : Option (List Member × List Glyph) :=
          match rest with
          | ⟨'-', false⟩ :: last :: more =>
            if last == ⟨']', false⟩ then
              members? steps false (.range g.char g.char :: reversed) rest
            else members? steps false (.range g.char last.char :: reversed) more
          | _ => members? steps false (.range g.char g.char :: reversed) rest
        match g, rest with
        | ⟨'[', false⟩, ⟨':', false⟩ :: after =>
          match kind? after with
          | some (name, more) => members? steps false (.kind name :: reversed) more
          | none => single rest
        | _, _ => single rest

/-- The set that follows an opening bracket, and what comes after it. -/
def set? (text : List Glyph) : Option (Wildcard × List Glyph) :=
  let (inside, text) := match text with
    | ⟨'!', false⟩ :: rest => (false, rest)
    | rest => (true, rest)
  (members? (text.length + 1) true [] text).map fun found => (.among inside found.1, found.2)

/-- The pattern that a word spells; `steps` is at least its length. -/
def ofGlyphs : Nat → List Glyph → List Wildcard
  | 0, _ => []
  | _ + 1, [] => []
  | steps + 1, g :: rest =>
    if g == ⟨'*', false⟩ then .anyText :: ofGlyphs steps rest
    else if g == ⟨'?', false⟩ then .anyOne :: ofGlyphs steps rest
    else if g == ⟨'[', false⟩ then
      match set? rest with
      | some (set, after) => set :: ofGlyphs steps after
      | none => .exactly '[' :: ofGlyphs steps rest
    else .exactly g.char :: ofGlyphs steps rest

/-- The characters of a pattern in which a backslash stands before characters that stand for
themselves, and a caret may turn a set into its complement. -/
def glyphs : List Char → List Glyph
  | '\\' :: c :: rest => ⟨c, true⟩ :: glyphs rest
  | '[' :: '^' :: rest => ⟨'[', false⟩ :: ⟨'!', false⟩ :: glyphs rest
  | c :: rest => ⟨c, false⟩ :: glyphs rest
  | [] => []

/-- The pattern that a text spells. -/
def ofText (text : String) : List Wildcard := ofGlyphs text.length (glyphs text.toList)

/-- Whether a pattern is more than a text. -/
def isActive (pattern : List Wildcard) : Bool :=
  pattern.any fun
    | exactly _ => false
    | _ => true

/-- Whether a text, from some point on, satisfies a test. -/
def atSomePoint (test : List Char → Bool) : List Char → Bool
  | [] => test []
  | c :: rest => test (c :: rest) || atSomePoint test rest

/-- Whether a text fits a pattern. -/
def «matches» : List Wildcard → List Char → Bool
  | [], text => text.isEmpty
  | [anyText], _ => true
  | anyText :: more, text => atSomePoint («matches» more) text
  | exactly c :: more, d :: text => c == d && «matches» more text
  | anyOne :: more, _ :: text => «matches» more text
  | among inside members :: more, d :: text =>
    (members.any (Member.covers d)) == inside && «matches» more text
  | _ :: _, [] => false

/-- A text without the shortest or longest part at its beginning that fits a pattern. -/
def withoutStart (pattern : List Wildcard) (longest : Bool) (text : List Char) : List Char :=
  let lengths := List.range (text.length + 1)
  match (if longest then lengths.reverse else lengths).find? fun n =>
      «matches» pattern (text.take n) with
  | some n => text.drop n
  | none => text

/-- A text without the shortest or longest part at its end that fits a pattern. -/
def withoutEnd (pattern : List Wildcard) (longest : Bool) (text : List Char) : List Char :=
  let lengths := List.range (text.length + 1)
  match (if longest then lengths else lengths.reverse).find? fun n =>
      «matches» pattern (text.drop n) with
  | some n => text.take n
  | none => text

/-! ## File names -/

/-- Whether a file name fits a pattern. -/
def meets (pattern : List Wildcard) (name : String) : Bool :=
  (name.toList.head? != some '.' || pattern.head? == some (.exactly '.')) &&
    «matches» pattern name.toList

/-- The names in the directory that a written path leads to. -/
def namesBelow (store : Store) (written : List Char) : List String :=
  match store.directoryAt ⟨if written.isEmpty then ['.'] else written⟩ with
  | .ok location => "." :: ".." :: store.namesAt location
  | .error _ => []

/-- The paths that begin as written and go on with names that fit patterns. -/
def below (store : Store) (written : List Char) : List (List Wildcard) → List (List Char)
  | [] =>
    match store.lookupLink ⟨written⟩ with
    | .ok _ => [written]
    | .error _ => []
  | pattern :: more =>
    let separator := if more.isEmpty then [] else ['/']
    if isActive pattern then
      ((namesBelow store written).filter (meets pattern)).flatMap fun name =>
        below store (written ++ name.toList ++ separator) more
    else
      let name := pattern.filterMap fun
        | exactly c => some c
        | _ => none
      below store (written ++ name ++ separator) more

/-- Cut a word at its slashes. -/
def segments (word : List Glyph) : List (List Glyph) :=
  word.foldr (fun g found =>
    match found with
    | first :: others => if g.char == '/' then [] :: first :: others else (g :: first) :: others
    | [] => [[g]]) [[]]

/-- The paths that a word fits, if it is a pattern and there are any; otherwise the word itself. -/
def paths (store : Store) (word : List Glyph) : List String :=
  let mayAct := word.any fun g => !g.quoted && (g.char == '*' || g.char == '?' || g.char == '[')
  let text := String.ofList (word.map Glyph.char)
  if !mayAct then [text]
  else
    let patterns := (segments word).map fun s => ofGlyphs s.length s
    if !patterns.any isActive then [text]
    else
      let found := (below store [] patterns).map String.ofList
      if found.isEmpty then [text] else found.mergeSort fun a b => decide (a ≤ b)

end Wildcard
end Shell
end TaskScript
