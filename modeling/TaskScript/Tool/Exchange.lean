import TaskScript.Regular.Basic
import TaskScript.Tool.Input

/-!
# Exchange — characters for characters

`tr` replaces, removes and squeezes characters.  Which ones is told by lists of characters, ranges,
classes and repetitions.

- `Exchange.read` : such a list
- `tr`            : the tool
-/

namespace TaskScript

open Shell (Machine)

namespace Tool
namespace Exchange

/-- A part of a list of characters. -/
inductive Part
  | char (c : Char)
  | range (first last : Char)
  | named (name : String)
  /-- All characters that are as good as one. -/
  | equal (c : Char)
  /-- A character so many times; as often as needed for none. -/
  | repeated (c : Char) (count : Nat)
  deriving DecidableEq, Repr

/-! ## Reading -/

/-- A character, and whether a backslash stood before it. -/
abbrev Marked := Char × Bool

/-- The warning about a number that is no octet. -/
def ambiguous (digits : List Char) : String :=
  let first := "0" ++ String.ofList (digits.take 2)
  "warning: the ambiguous octal escape \\" ++ String.ofList digits ++
    " is being\n\tinterpreted as the 2-byte sequence \\" ++ first ++ ", " ++
    String.ofList (digits.drop 2)

/-- The characters of a text with their escapes resolved, and warnings. -/
def unescape : Nat → List Char → List Marked × List String
  | 0, _ => ([], [])
  | _ + 1, [] => ([], [])
  | _ + 1, ['\\'] =>
    ([('\\', false)], ["warning: an unescaped backslash at end of string is not portable"])
  | steps + 1, '\\' :: c :: rest =>
    let go (found : Char) (rest : List Char) : List Marked × List String :=
      let more := unescape steps rest
      ((found, true) :: more.1, more.2)
    match [('a', '\x07'), ('b', '\x08'), ('f', '\x0c'), ('n', '\n'), ('r', '\r'), ('t', '\t'),
        ('v', '\x0b')].lookup c with
    | some found => go found rest
    | none =>
      let digits := ((c :: rest).take 3).takeWhile (Numeral.isDigit 8)
      if digits.isEmpty then go c rest
      else
        let value := Numeral.ofDigits 8 digits
        if value < 256 then go (Char.ofNat value) ((c :: rest).drop digits.length)
        else
          let more := go (Char.ofNat (value / 8)) ((c :: rest).drop 2)
          (more.1, ambiguous digits :: more.2)
  | steps + 1, c :: rest =>
    let more := unescape steps rest
    ((c, false) :: more.1, more.2)

/-- A text that is enclosed by a mark before a bracket: what stands before, and what follows. -/
def enclosed? (mark : Char) : List Marked → Option (List Char × List Marked)
  | (c, isEscaped) :: (d, isEscaped') :: rest =>
    if c == mark && d == ']' && !isEscaped && !isEscaped' then some ([], rest)
    else (enclosed? mark ((d, isEscaped') :: rest)).map fun found => (c :: found.1, found.2)
  | _ => none

/-- How a character is named in complaints. -/
def printed (c : Char) : String :=
  if Quoting.isVisible c then String.singleton c
  else "\\" ++ Numeral.padded 3 '0' (Numeral.inBase 8 c.toNat)

/-- The part that a bracket opens, if it opens one, and what follows. -/
def bracketed? (text : List Marked) : Option (Except String (Part × List Marked)) :=
  match text with
  | (mark, false) :: rest =>
    let asClass := if mark == ':' || mark == '=' then enclosed? mark rest else none
    match asClass with
    | some (name, rest) =>
      let name := String.ofList name
      if mark == ':' then
        if (Regular.Set.classes.lookup name).isSome then some (.ok (.named name, rest))
        else if name.isEmpty then some (.error "missing character class name '[::]'")
        else some (.error ("invalid character class " ++ Quoting.plain name))
      else
        match name.toList with
        | [c] => some (.ok (.equal c, rest))
        | [] => some (.error "missing equivalence class character '[==]'")
        | _ => some (.error
            (name ++ ": equivalence class operand must be a single character"))
    | none => repetition? text
  | _ => repetition? text
where
  /-- The repetition that a bracket opens, if it opens one, and what follows. -/
  repetition? (text : List Marked) : Option (Except String (Part × List Marked)) :=
    match text with
    | (c, _) :: ('*', false) :: rest =>
      let count := rest.takeWhile (· != (']', false))
      match rest.drop count.length with
      | _ :: after =>
        let digits := count.map Prod.fst
        let base := if digits.head? == some '0' then 8 else 10
        if digits.all (Numeral.isDigit base) then
          some (.ok (.repeated c (Numeral.ofDigits base digits), after))
        else
          some (.error ("invalid repeat count " ++ Quoting.plain (String.ofList digits) ++
            " in [c*n] construct"))
      | [] => none
    | _ => none

/-- The parts of a list. -/
def parts : Nat → List Marked → Except String (List Part)
  | 0, _ => .ok []
  | _ + 1, [] => .ok []
  | steps + 1, ('[', false) :: rest =>
    match bracketed? rest with
    | some (.error message) => .error message
    | some (.ok (part, after)) => (parts steps after).map (part :: ·)
    | none => plain steps '[' rest
  | steps + 1, (c, _) :: rest => plain steps c rest
where
  /-- The parts from a character on, which may start a range. -/
  plain (steps : Nat) (c : Char) (rest : List Marked) : Except String (List Part) :=
    match rest with
    | ('-', false) :: (d, _) :: rest =>
      if d < c then
        .error ("range-endpoints of '" ++ printed c ++ "-" ++ printed d ++
          "' are in reverse collating sequence order")
      else (parts steps rest).map (.range c d :: ·)
    | _ => (parts steps rest).map (.char c :: ·)

/-- The parts of a list that a text describes, and warnings. -/
def read (text : String) : Except String (List Part) × List String :=
  let (marked, warnings) := unescape (text.length + 1) text.toList
  (parts (marked.length + 1) marked, warnings)

/-! ## Meaning -/

/-- The characters from one to another one. -/
def between (first last : Char) : List Char :=
  (List.range (last.toNat + 1 - first.toNat)).map fun n => Char.ofNat (first.toNat + n)

/-- The characters of a part. -/
def Part.chars : Part → List Char
  | .char c | .equal c => [c]
  | .range first last => between first last
  | .named name => ((Regular.Set.classes.lookup name).getD []).flatMap fun r => between r.1 r.2
  | .repeated c count => List.replicate count c

/-- The characters of a list. -/
def expand (list : List Part) : List Char := list.flatMap Part.chars

/-- The characters of a list in which a repetition without a count fills up a length. -/
def expandTo (length : Nat) (list : List Part) : List Char :=
  let others := (expand list).length
  list.flatMap fun
    | .repeated c 0 => List.replicate (length - others) c
    | part => part.chars

/-- All octets. -/
def octets : List Char := (List.range 256).map Char.ofNat

/-- Whether a part is a repetition without a count. -/
def isIndefinite : Part → Bool
  | .repeated _ count => count == 0
  | _ => false

/-- Whether a part is a class of letters of one case. -/
def isCase : Part → Bool
  | .named name => name == "upper" || name == "lower"
  | _ => false

/-- Whether a part is a class. -/
def isNamed : Part → Bool
  | .named _ => true
  | _ => false

/-- Where the classes of letters of one case start among the characters of a list. -/
def casePlaces (list : List Part) : List Nat :=
  (list.foldl (fun (n, found) part =>
    (n + part.chars.length, if isCase part then found ++ [n] else found)) (0, [])).2

/-- The characters that replace those of a set, or why there are none. -/
def replacements (complements truncates : Bool) (set : List Part) (domain : List Char)
    (list : List Part) : Except String (List Char) :=
  let isEqual (part : Part) : Bool := match part with
    | .equal _ => true
    | _ => false
  if (list.filter isIndefinite).length > 1 then
    .error "only one [c*] repeat construct may appear in string2"
  else if list.any isEqual then
    .error "[=c=] expressions may not appear in string2 when translating"
  else if list.any fun part => isNamed part && !isCase part then
    .error ("when translating, the only character classes that may appear in\n" ++
      "string2 are 'upper' and 'lower'")
  else if !complements && (casePlaces list).any fun n => !(casePlaces set).contains n then
    .error "misaligned [:upper:] and/or [:lower:] construct"
  else
    let goals := expandTo domain.length list
    if truncates || domain.length ≤ goals.length then .ok goals
    else
      match goals.getLast? with
      | none => .error "when not truncating set1, string2 must be non-empty"
      | some last =>
        if (list.getLast?.map isNamed).getD false then
          .error ("when translating with string1 longer than string2,\n" ++
            "the latter string must not end with a character class")
        else if complements && set.any isNamed && goals.any (· != last) then
          .error ("when translating with complemented character classes,\n" ++
            "string2 must map all characters in the domain to one")
        else .ok (goals ++ List.replicate (domain.length - goals.length) last)

/-- A text in which runs of the same character of a set stand for one. -/
def squeeze (set : Array Bool) (text : List Char) : List Char :=
  (text.foldl (fun (reversed : List Char) c =>
    if (set[c.toNat]?).getD false && reversed.head? == some c then reversed else c :: reversed)
    []).reverse

/-- Which octets a list holds. -/
def membership (chars : List Char) : Array Bool :=
  chars.foldl (fun found c => found.setIfInBounds c.toNat true) (Array.replicate 256 false)

/-- What is done with a text. -/
structure Plan where
  removed : Array Bool
  mapping : Array Char
  squeezed? : Option (Array Bool)

/-- Do what is planned. -/
def Plan.apply (p : Plan) (text : List Char) : List Char :=
  let kept := text.filter fun c => !(p.removed[c.toNat]?).getD false
  let mapped := kept.map fun c => (p.mapping[c.toNat]?).getD c
  match p.squeezed? with
  | some set => squeeze set mapped
  | none => mapped

/-- What is done with a text, given the options and the lists. -/
def plan (o : Options.Reading) (first : List Part) (second? : Option (List Part)) :
    Except String Plan :=
  let complements := o.has "c"
  let deletes := o.has "d"
  let squeezes := o.has "s"
  let listed := expand first
  let domain :=
    if complements then
      let found := membership listed
      octets.filter fun c => !(found[c.toNat]?).getD false
    else listed
  let set := membership domain
  let nothing := membership []
  let same := octets.toArray
  if first.any isIndefinite then
    .error "the [c*] repeat construct may not appear in string1"
  else
    match second? with
    | none =>
      .ok (if deletes then ⟨set, same, none⟩ else ⟨nothing, same, some set⟩)
    | some second =>
      if deletes then
        if second.any isIndefinite then
          .error "the [c*] construct may appear in string2 only when translating"
        else .ok ⟨set, same, some (membership (expand second))⟩
      else
        (replacements complements (o.has "t") first domain second).map fun goals =>
          let mapping := (domain.zip goals).foldl (fun (mapping : Array Char) (c, goal) =>
            mapping.setIfInBounds c.toNat goal) same
          ⟨nothing, mapping, if squeezes then some (membership goals) else none⟩

end Exchange

/-- Replace, remove and squeeze characters. -/
def tr : Tool :=
  byOptionsAt 1 true [.flag 'c' "complement", ⟨"c", some 'C', none, .nothing⟩, .flag 'd' "delete",
      .flag 's' "squeeze-repeats", .flag 't' "truncate-set1"] fun o m =>
    let deletes := o.has "d"
    let squeezes := o.has "s"
    let least := if deletes != squeezes then 1 else 2
    let most := if deletes && !squeezes then 1 else 2
    let complain (lines : List String) : Machine :=
      match lines with
      | [] => m
      | first :: more =>
        ((more.foldl (fun m line => m.complain line) (object first m)).complain
          (helpHint m)).withStatus 1
    let operands := o.operands
    if operands.length < least then
      match operands with
      | [only] =>
        complain ["missing operand after " ++ Quoting.plain only,
          if deletes then
            "Two strings must be given when both deleting and squeezing repeats."
          else "Two strings must be given when translating."]
      | _ => complain ["missing operand"]
    else
      match operands.drop most with
      | extra :: _ =>
        complain (("extra operand " ++ Quoting.plain extra) ::
          if operands.length == 2 then
            ["Only one string may be given when deleting without squeezing repeats."] else [])
      | [] =>
        let lists := operands.map Exchange.read
        let warned := (lists.flatMap Prod.snd).foldl (fun m text => object text m) m
        let planned := do
          let read ← lists.mapM Prod.fst
          Exchange.plan o (read.headD []) read[1]?
        match planned with
        | .error message => fail message warned
        | .ok plan =>
          match readInput "-" warned with
          | (.ok chars, m) => m.printChars (plan.apply chars)
          | (.error cause, m) => fail ("read error: " ++ cause.reason) m

end Tool
end TaskScript
